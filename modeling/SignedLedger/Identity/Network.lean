import SignedLedger.Identity.Address
import SignedLedger.Identity.Digest

-- Where and when an operation is meant to count: the network, the block height,
-- and the proposal that a block is made for.
namespace SignedLedger

structure Height where
  value : UInt64
  deriving DecidableEq

namespace Height

def zero : Height := ⟨0⟩

instance : ToString Height := ⟨fun h => toString h.value.toNat⟩

end Height

structure NetworkId where
  bytes : List UInt8
  deriving DecidableEq

def NetworkId.ofString (text : String) : NetworkId := ⟨Text.utf8 text⟩

-- What a sign is made over. A digest has a fixed length, so the network id ends
-- where the last 32 bytes begin.
def signMessage (network : NetworkId) (fact : Digest) : List UInt8 := network.bytes ++ fact.bytes

structure Proposal where
  height : Height
  suffrage : List Address
  operations : List Digest
  deriving DecidableEq

def Proposal.suffrageSize (p : Proposal) : Nat := p.suffrage.length

end SignedLedger

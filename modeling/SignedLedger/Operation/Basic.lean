import SignedLedger.Operation.Fact
import SignedLedger.Text.Instant

-- Signed operations. A sign covers the network and the fact; the operation's own
-- digest covers the fact and all signs.
namespace SignedLedger

structure Sign where
  signer : PublicKey
  signature : Signature
  signedAt : Instant
  deriving DecidableEq

namespace Sign

def verifies (network : NetworkId) (fact : Digest) (s : Sign) : Bool :=
  s.signer.verifies (signMessage network fact) s.signature

def encode (s : Sign) : List UInt8 :=
  s.signer.bytes ++ Binary.blob s.signature.bytes ++ Binary.text s.signedAt.text

end Sign

structure Authentication where
  contract : Address
  did : String
  methodId : String
  proof : Signature
  deriving DecidableEq

-- The settlement account sends the operation and pays for it; with a proxy payer
-- a contract pays in its place.
structure Extensions where
  authentication : Option Authentication
  settlement : Option Address
  proxyPayer : Option Address
  deriving DecidableEq

namespace Extensions

def none : Extensions := ⟨.none, .none, .none⟩

-- Authentication counts in place of the signer only next to a settlement.
def delegated? (e : Extensions) : Option Authentication :=
  match e.authentication, e.settlement with
  | some authentication, some _ => some authentication
  | _, _ => .none

end Extensions

structure Operation where
  hint : Hint
  fact : Fact
  signs : List Sign
  extensions : Extensions

namespace Operation

def factDigest (op : Operation) : Digest := op.fact.digest

def encode (op : Operation) : List UInt8 := op.factDigest.bytes ++ Binary.list Sign.encode op.signs

def digest (op : Operation) : Digest := Digest.of op.encode

def checkSigns (network : NetworkId) (fact : Digest) (seen : List PublicKey) :
    List Sign → Check Unit
  | [] => .ok ()
  | sign :: rest => do
    require (!seen.contains sign.signer) .invalidFact s!"duplicated sign by {sign.signer}"
    require (sign.verifies network fact) .unauthorized s!"invalid sign by {sign.signer}"
    checkSigns network fact (sign.signer :: seen) rest

def verifySigns (network : NetworkId) (op : Operation) : Check Unit := do
  require (!op.signs.isEmpty) .unauthorized "operation carries no signs"
  checkSigns network op.factDigest [] op.signs

def dropRepeats : List PublicKey → List PublicKey
  | a :: b :: rest => if a = b then dropRepeats (b :: rest) else a :: dropRepeats (b :: rest)
  | short => short

def verifiedSigners (network : NetworkId) (op : Operation) : List PublicKey :=
  let fact := op.factDigest
  let signers := (op.signs.filter (Sign.verifies network fact)).map Sign.signer
  dropRepeats (signers.mergeSort PublicKey.le)

end Operation
end SignedLedger

import SignedLedger.Session.Engine
import SignedLedger.State.Genesis

-- A small ledger to try statements on. The key is the neutral point of the curve:
-- its signature verifies over every message, so no sign has to be worked out.
namespace SignedLedger.Sample

def key : PublicKey := ⟨1 :: List.replicate 31 0, by decide⟩

def signature : Signature := ⟨key.bytes ++ List.replicate 32 0, by decide⟩

def strange : PublicKey := ⟨List.replicate 32 0, by decide⟩

def alice : Address := ⟨"alice01", by decide +kernel, by decide +kernel, by decide +kernel⟩

def bob : Address := ⟨"bob01", by decide +kernel, by decide +kernel, by decide +kernel⟩

def carol : Address := ⟨"carol01", by decide +kernel, by decide +kernel, by decide +kernel⟩

def dave : Address := ⟨"dave01", by decide +kernel, by decide +kernel, by decide +kernel⟩

def coin : Currency := ⟨"CUR", by decide +kernel, by decide +kernel, by decide +kernel⟩

def network : NetworkId := ⟨[1]⟩

def decimal (coeff : Int) (scale : Nat) : Decimal :=
  (Decimal.ofParts? coeff scale).getD Decimal.zero

def amount (coeff : Int) (scale : Nat) : Amount := ⟨coin, decimal coeff scale⟩

def held (address : Address) (opens : PublicKey) : GenesisEntry :=
  .account (Account.withKeys address (AccountKeys.single opens))

def coins (fee : FeeRule) : GenesisEntry :=
  .currency ⟨coin, alice, decimal 1000000 0, ⟨Decimal.zero, fee, none⟩⟩

def store (entries : List GenesisEntry) : Store := Store.empty.extend (genesisStates ⟨1⟩ entries)

def settings : Settings := ⟨Registry.standard, network, Limits.default, .claims, .registry⟩

def engine : Engine := Engine.new settings 1 1

def signed (kind : FactKind) (fact : Fact) (extensions : Extensions) : Operation :=
  ⟨kind.operationHint, fact, [⟨key, signature, ⟨0, 0⟩⟩], extensions⟩

def pay (sender : Address) (items : List Payment) (extensions : Extensions) : Operation :=
  signed .transfer (.transfer ⟨[1], sender, items⟩) extensions

def plainLedger : Store :=
  store [coins .free, held alice key, held bob key, .balance alice (amount 100 0)]

def plain : Operation := pay alice [⟨bob, [amount 10 0]⟩] Extensions.none

end SignedLedger.Sample

import SignedLedger.Operation.Claim
import SignedLedger.Operation.Content

-- Facts of types that are not built in: whoever brings such a type answers for its facts,
-- and always answers the same. The content is for the processor of the type.
namespace SignedLedger

structure Declared where
  hint : Hint
  token : List UInt8
  digest : Digest
  validate : Limits → Check Unit
  signer : Option Address
  claims : Option ClaimSet
  fee : Option FeeTerms
  user : Option Address
  ownerOnly : Option (List ContractAccess)
  activeContracts : Option (List Address)
  content : List UInt8

def Declared.bare (hint : Hint) (token : List UInt8) : Declared :=
  ⟨hint, token, Digest.of token, fun _ => checkToken token, none, none, none, none, none, none, []⟩

end SignedLedger

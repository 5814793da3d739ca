import SignedLedger.Identity.PublicKey
import SignedLedger.Text.Quoted

namespace SignedLedger

inductive Malformed where
  | addressLength (text : String)
  | addressCharacters (text : String)
  | currency (text : String)
  | hint (text : String)
  | noKeys
  | threshold (threshold : UInt8)
  | weight (weight : UInt8) (key : PublicKey)
  | repeatedKey (key : PublicKey)
  | weightSum (total : Nat) (threshold : UInt8)
  deriving DecidableEq

def Malformed.message : Malformed → String
  | .addressLength text => s!"invalid address length {text.utf8ByteSize}: {Text.quoted text}"
  | .addressCharacters text => s!"address must be ascii alphanumeric: {Text.quoted text}"
  | .currency text => s!"invalid currency id: {Text.quoted text}"
  | .hint text => s!"invalid hint: {Text.quoted text}"
  | .noKeys => "account keys must not be empty"
  | .threshold given => s!"invalid threshold {given.toNat}"
  | .weight given key => s!"invalid weight {given.toNat} for key {key}"
  | .repeatedKey key => s!"duplicated account key {key}"
  | .weightSum total wanted => s!"sum of weights {total} below threshold {wanted.toNat}"

end SignedLedger

import SignedLedger.State.Value

namespace SignedLedger

structure State where
  key : String
  height : Height
  value : StateValue
  operations : List Digest
  deriving DecidableEq

end SignedLedger

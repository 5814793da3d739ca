namespace SignedLedger

structure Limits where
  maxItems : Nat
  maxKeys : Nat
  maxAmountsPerItem : Nat
  maxDidMethods : Nat
  deriving DecidableEq

def Limits.default : Limits := ⟨10, 10, 10, 8⟩

end SignedLedger

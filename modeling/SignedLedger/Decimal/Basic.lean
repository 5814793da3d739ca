-- Decimal numbers with a fixed budget: the coefficient stays below 2^96 in
-- magnitude and the scale counts at most 28 fraction digits. The number is
-- coeff / 10^scale, so 1 and 1.0 are the same number with two spellings. A zero
-- may be spelled with a minus sign; that changes nothing but the spelling.
namespace SignedLedger

def Decimal.coeffBound : Nat := 79228162514264337593543950336

def Decimal.maxScale : Nat := 28

structure Decimal where
  coeff : Int
  scale : Nat
  minusZero : Bool
  coeff_lt : coeff.natAbs < Decimal.coeffBound
  scale_le : scale ≤ Decimal.maxScale
  zero_of_minus : minusZero = true → coeff = 0
  deriving DecidableEq

namespace Decimal

def tenTo (k : Nat) : Nat := Nat.pow 10 k

def ofParts? (coeff : Int) (scale : Nat) : Option Decimal :=
  if fits : coeff.natAbs < coeffBound ∧ scale ≤ maxScale then
    some ⟨coeff, scale, false, fits.1, fits.2, nofun⟩
  else none

def zero : Decimal := ⟨0, 0, false, by decide, by decide, nofun⟩

def one : Decimal := ⟨1, 0, false, by decide, by decide, nofun⟩

instance : Inhabited Decimal := ⟨zero⟩

def Lt (a b : Decimal) : Prop := a.coeff * tenTo b.scale < b.coeff * tenTo a.scale

def Le (a b : Decimal) : Prop := a.coeff * tenTo b.scale ≤ b.coeff * tenTo a.scale

def Same (a b : Decimal) : Prop := a.coeff * tenTo b.scale = b.coeff * tenTo a.scale

instance : LT Decimal := ⟨Lt⟩

instance : LE Decimal := ⟨Le⟩

instance (a b : Decimal) : Decidable (a < b) :=
  inferInstanceAs (Decidable (a.coeff * tenTo b.scale < b.coeff * tenTo a.scale))

instance (a b : Decimal) : Decidable (a ≤ b) :=
  inferInstanceAs (Decidable (a.coeff * tenTo b.scale ≤ b.coeff * tenTo a.scale))

instance (a b : Decimal) : Decidable (Same a b) :=
  inferInstanceAs (Decidable (a.coeff * tenTo b.scale = b.coeff * tenTo a.scale))

def isZero (a : Decimal) : Bool := a.coeff = 0

def isNegative (a : Decimal) : Bool := a.coeff < 0

def signed (a : Decimal) : Bool := decide (a.coeff < 0) || a.minusZero

def withZeroSign (minus : Bool) (a : Decimal) : Decimal :=
  ⟨a.coeff, a.scale, minus && decide (a.coeff = 0), a.coeff_lt, a.scale_le, by simp⟩

def neg (a : Decimal) : Decimal :=
  ⟨-a.coeff, a.scale, !a.minusZero && decide (a.coeff = 0), by have := a.coeff_lt; omega, a.scale_le,
    by simp⟩

def larger (a b : Decimal) : Decimal := if a < b then b else a

def smaller (a b : Decimal) : Decimal := if b < a then b else a

theorem Same.refl (a : Decimal) : Same a a := rfl

theorem lt_iff {a b : Decimal} : a < b ↔ a.coeff * tenTo b.scale < b.coeff * tenTo a.scale := Iff.rfl

theorem le_iff {a b : Decimal} : a ≤ b ↔ a.coeff * tenTo b.scale ≤ b.coeff * tenTo a.scale := Iff.rfl

end Decimal
end SignedLedger

import SignedLedger.Decimal.Basic

-- Exact sums and products, then the fewest fraction digits dropped that bring
-- the result back into the budget. A half goes to the even neighbour.
namespace SignedLedger.Decimal

def roundHalfEven (n d : Nat) : Nat :=
  let q := n / d
  let twice := 2 * (n % d)
  if d < twice ∨ (d = twice ∧ q % 2 = 1) then q + 1 else q

def shrink (coeff : Int) (k : Nat) : Int :=
  let rounded := roundHalfEven coeff.natAbs (tenTo k)
  if coeff < 0 then -(rounded : Int) else rounded

-- Room for the quotient is asked before rounding: one more digit goes when
-- rounding up lands on the bound itself.
def roomAfter (coeff : Int) (scale k : Nat) : Bool :=
  coeff.natAbs / tenTo k < coeffBound && scale - k ≤ maxScale

def dropCount? (coeff : Int) (scale : Nat) : Option Nat :=
  (List.range (scale + 1)).find? (roomAfter coeff scale)

def fit? (coeff : Int) (scale : Nat) : Option Decimal :=
  match dropCount? coeff scale with
  | none => none
  | some k =>
    match ofParts? (shrink coeff k) (scale - k) with
    | some fitted => some fitted
    | none =>
      if k < scale then ofParts? (shrink (shrink coeff k) 1) (scale - k - 1) else none

-- A zero operand gives the other one back with its own scale; the left one is
-- asked first. Without fraction digits to drop an oversized sum is none. Numbers
-- that cancel give a zero without a sign.
def add? (a b : Decimal) : Option Decimal :=
  if a.coeff = 0 then some b
  else if b.coeff = 0 then some a
  else
    let scale := max a.scale b.scale
    fit? (a.coeff * tenTo (scale - a.scale) + b.coeff * tenTo (scale - b.scale)) scale

def sub? (a b : Decimal) : Option Decimal :=
  if a.coeff = 0 ∧ b.coeff = 0 then some b else a.add? b.neg

def isShort (a : Decimal) : Bool := a.coeff.natAbs < UInt32.size

-- A zero factor gives a plain zero. Two short factors are rounded to a zero
-- without a sign, and to a plain zero when their product lies far below the last
-- fraction digit; every other product that is rounded to zero keeps its sign.
def mul? (a b : Decimal) : Option Decimal :=
  if a.coeff = 0 ∨ b.coeff = 0 then some zero
  else
    let product := fit? (a.coeff * b.coeff) (a.scale + b.scale)
    if a.isShort && b.isShort then
      if 47 < a.scale + b.scale then some zero else product
    else product.map (withZeroSign (decide (a.coeff * b.coeff < 0)))

end SignedLedger.Decimal

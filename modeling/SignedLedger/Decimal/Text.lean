import SignedLedger.Decimal.Basic
import SignedLedger.Text.Whole

-- Decimal text. Writing is plain and shows every fraction digit of the scale.
-- Reading keeps the scale; digits beyond the budget are dropped after rounding on
-- the first of them, a half going away from zero. A number may also be read with
-- an exponent.
namespace SignedLedger.Decimal
open Text (digitValue)

def digits (n : Nat) : List Char := Nat.toDigits 10 n

def padded (scale n : Nat) : List Char :=
  let ds := digits n
  List.replicate (scale + 1 - ds.length) '0' ++ ds

def chars (a : Decimal) : List Char :=
  let ds := padded a.scale a.coeff.natAbs
  let whole := ds.take (ds.length - a.scale)
  let fraction := ds.drop (ds.length - a.scale)
  (if a.signed then ['-'] else []) ++ whole ++
    (if a.scale = 0 then [] else '.' :: fraction)

def text (a : Decimal) : String := String.ofList a.chars

instance : ToString Decimal := ⟨text⟩

-- Rounds a magnitude on the first digit that has no room. When the magnitude
-- leaves the budget by that, its own last digit is rounded off as well.
def closeReading (magnitude scale : Nat) (dropped : Nat) : Option (Nat × Nat) :=
  if dropped < 5 then some (magnitude, scale)
  else if magnitude + 1 < coeffBound then some (magnitude + 1, scale)
  else if scale = 0 then none
  else some ((magnitude + 1 + 4) / 10, scale - 1)

-- Numbers below this bound take one more digit within 64 bits, with some reserve.
def wordBound : Nat := UInt64.size / 10 - 255

-- What stands behind the last fraction digit that has room. An underscore ends a
-- number that was short up to that digit, and in a longer one it is passed over.
def readBeyond (magnitude scale : Nat) : List Char → Option (Nat × Nat)
  | [] => some (magnitude, scale)
  | c :: rest =>
    if c.isDigit then closeReading magnitude scale (digitValue c)
    else if c = '_' then
      if magnitude / 10 < wordBound then some (magnitude, scale)
      else readBeyond magnitude scale rest
    else none

def readFraction (seen : Bool) : Nat → Nat → List Char → Option (Nat × Nat)
  | magnitude, scale, [] => if seen then some (magnitude, scale) else none
  | magnitude, scale, c :: rest =>
    if maxScale ≤ scale then readBeyond magnitude scale (c :: rest)
    else if c.isDigit then
      let next := 10 * magnitude + digitValue c
      if next < coeffBound then readFraction true next (scale + 1) rest
      else closeReading magnitude scale (digitValue c)
    else if c = '_' ∧ seen then readFraction seen magnitude scale rest
    else none

def readUnsigned (seen : Bool) : Nat → List Char → Option (Nat × Nat)
  | magnitude, [] => if seen then some (magnitude, 0) else none
  | magnitude, c :: rest =>
    if c.isDigit then
      let next := 10 * magnitude + digitValue c
      if next < coeffBound then readUnsigned true next rest else none
    else if c = '.' then readFraction seen magnitude 0 rest
    else if c = '_' ∧ seen then readUnsigned seen magnitude rest
    else none

def readPlain? : List Char → Option Decimal
  | '-' :: rest => do
    let (magnitude, scale) ← readUnsigned false 0 rest
    ofParts? (-(magnitude : Int)) scale
  | '+' :: rest => do
    let (magnitude, scale) ← readUnsigned false 0 rest
    ofParts? magnitude scale
  | rest => do
    let (magnitude, scale) ← readUnsigned false 0 rest
    ofParts? magnitude scale

def splitExponent? : List Char → Option (List Char × List Char)
  | [] => none
  | c :: rest =>
    if c = 'e' ∨ c = 'E' then some ([], rest)
    else (splitExponent? rest).map fun (front, exponent) => (c :: front, exponent)

def raise? (a : Decimal) (places : Nat) : Option Decimal :=
  if places ≤ a.scale then ofParts? a.coeff (a.scale - places)
  else if places ≤ maxScale then ofParts? (a.coeff * tenTo (places - a.scale)) 0
  else none

def withoutLast (count magnitude : Nat) : Nat := (magnitude + tenTo count / 2) / tenTo count

def lower? (a : Decimal) (places : Nat) : Option Decimal :=
  if maxScale < places then none
  else do
    let excess := a.scale + places - maxScale
    let coeff := a.coeff.sign * withoutLast excess a.coeff.natAbs
    let moved ← ofParts? coeff (a.scale + places - excess)
    return moved.withZeroSign a.signed

def readExponent? (digits : List Char) : Option Nat :=
  (Text.readWhole UInt32.size digits).toOption

def readScientific? (chars : List Char) : Option Decimal := do
  let (front, exponent) ← splitExponent? chars
  let number ← readPlain? front
  match exponent with
  | '-' :: digits => number.lower? (← readExponent? digits)
  | digits => number.raise? (← readExponent? digits)

-- The exponent comes first, because the plain reading stops at the first digit
-- without room and would pass over what stands behind it.
def read? (text : String) : Option Decimal :=
  readScientific? text.toList <|> readPlain? text.toList

end SignedLedger.Decimal

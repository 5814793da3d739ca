-- Reading unsigned whole numbers below a bound: an optional plus sign, then
-- decimal digits only. The first character that breaks a rule decides.
namespace SignedLedger.Text

inductive WholeError where
  | empty
  | invalidDigit
  | tooLarge
  deriving DecidableEq

def WholeError.message : WholeError → String
  | .empty => "cannot parse integer from empty string"
  | .invalidDigit => "invalid digit found in string"
  | .tooLarge => "number too large to fit in target type"

def digitValue (c : Char) : Nat := c.toNat - '0'.toNat

def readDigits (bound : Nat) : Nat → List Char → Except WholeError Nat
  | value, [] => .ok value
  | value, c :: rest =>
    if c.isDigit then
      let next := 10 * value + digitValue c
      if next < bound then readDigits bound next rest else .error .tooLarge
    else .error .invalidDigit

def readWhole (bound : Nat) : List Char → Except WholeError Nat
  | [] => .error .empty
  | ['+'] => .error .invalidDigit
  | '+' :: digits => readDigits bound 0 digits
  | digits => readDigits bound 0 digits

def readUInt64? (text : String) : Option UInt64 :=
  match readWhole UInt64.size text.toList with
  | .ok n => some (UInt64.ofNat n)
  | .error _ => none

end SignedLedger.Text

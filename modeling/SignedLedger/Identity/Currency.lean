import SignedLedger.Decimal.Text
import SignedLedger.Malformed

-- Currencies and amounts of them. A currency is named by 3 to 10 upper-case
-- letters and digits.
namespace SignedLedger

structure Currency where
  text : String
  size_ge : 3 ≤ text.utf8ByteSize
  size_le : text.utf8ByteSize ≤ 10
  plain : text.toList.all (fun c => c.isUpper || c.isDigit) = true

namespace Currency

def ofString (text : String) : Except Malformed Currency :=
  if sized : 3 ≤ text.utf8ByteSize ∧ text.utf8ByteSize ≤ 10 then
    if plain : text.toList.all (fun c => c.isUpper || c.isDigit) = true then
      .ok ⟨text, sized.1, sized.2, plain⟩
    else .error (.currency text)
  else .error (.currency text)

instance : ToString Currency := ⟨text⟩

instance : LT Currency := ⟨fun a b => a.text < b.text⟩

instance (a b : Currency) : Decidable (a < b) := inferInstanceAs (Decidable (a.text < b.text))

theorem ext {a b : Currency} (same : a.text = b.text) : a = b := by
  cases a; cases b; simpa using same

instance : DecidableEq Currency := fun a b =>
  if same : a.text = b.text then isTrue (ext same) else isFalse fun equal => same (congrArg text equal)

theorem ofString_text (c : Currency) : ofString c.text = .ok c := by
  rw [ofString, dif_pos ⟨c.size_ge, c.size_le⟩, dif_pos c.plain]

end Currency

structure Amount where
  currency : Currency
  value : Decimal
  deriving DecidableEq

namespace Amount

def text (a : Amount) : String := s!"{a.value} {a.currency}"

instance : ToString Amount := ⟨text⟩

def agrees (a b : Amount) : Bool := a.currency = b.currency && decide (a.value.Same b.value)

end Amount
end SignedLedger

import SignedLedger.Malformed
import SignedLedger.Text.Utf8

-- Account addresses: 3 to 100 letters and digits.
namespace SignedLedger

structure Address where
  text : String
  size_ge : 3 ≤ text.utf8ByteSize
  size_le : text.utf8ByteSize ≤ 100
  plain : text.toList.all Char.isAlphanum = true

namespace Address

-- The length in bytes is looked at before the characters.
def ofString (text : String) : Except Malformed Address :=
  if sized : 3 ≤ text.utf8ByteSize ∧ text.utf8ByteSize ≤ 100 then
    if plain : text.toList.all Char.isAlphanum = true then
      .ok ⟨text, sized.1, sized.2, plain⟩
    else .error (.addressCharacters text)
  else .error (.addressLength text)

instance : ToString Address := ⟨text⟩

theorem ext {a b : Address} (same : a.text = b.text) : a = b := by
  cases a; cases b; simpa using same

instance : DecidableEq Address := fun a b =>
  if same : a.text = b.text then isTrue (ext same) else isFalse fun equal => same (congrArg text equal)

theorem ofString_text (a : Address) : ofString a.text = .ok a := by
  rw [ofString, dif_pos ⟨a.size_ge, a.size_le⟩, dif_pos a.plain]

end Address
end SignedLedger

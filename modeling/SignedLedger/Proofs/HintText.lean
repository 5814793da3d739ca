import SignedLedger.Identity.Hint
import SignedLedger.Proofs.Text.Cut
import SignedLedger.Proofs.Text.Whole

-- The text of a hint. It is read back to the hint, and which texts are read as hints is
-- told by their spelling alone.
namespace SignedLedger
open Text

def Version.SpelledBy (v : Version) (text : List Char) : Prop :=
  ∃ major minor patch, text.splitOn '.' = [major, minor, patch] ∧
    Spells major v.major.toNat ∧ Spells minor v.minor.toNat ∧ Spells patch v.patch.toNat

def Hint.SpelledBy (h : Hint) (text : String) : Prop :=
  h.kind ≠ "" ∧ ∃ version, LastCut ['-', 'v'] text.toList h.kind.toList version ∧
    h.version.SpelledBy version

namespace Version

theorem readPart_exact {part : List Char} {n : UInt16} :
    (∃ m, readWhole 65536 part = .ok m ∧ UInt16.ofNat m = n) ↔ Spells part n.toNat := by
  constructor
  · intro ⟨m, read, same⟩
    obtain ⟨spelled, small⟩ := (readWhole_exact (by decide)).mp read
    rwa [← same, UInt16.toNat_ofNat_of_lt' small]
  · intro spelled
    exact ⟨n.toNat, (readWhole_exact (by decide)).mpr ⟨spelled, n.toNat_lt⟩, UInt16.ofNat_toNat⟩

theorem read_exact {text : List Char} {v : Version} : read? text = some v ↔ v.SpelledBy text := by
  unfold read?
  rw [pieces_eq_splitOn]
  constructor
  · intro read
    split at read
    · rename_i major minor patch parts
      split at read
      · rename_i a b c first second third
        cases read
        exact ⟨major, minor, patch, parts, readPart_exact.mp ⟨a, first, rfl⟩,
          readPart_exact.mp ⟨b, second, rfl⟩, readPart_exact.mp ⟨c, third, rfl⟩⟩
      · cases read
    · cases read
  · intro ⟨major, minor, patch, parts, first, second, third⟩
    obtain ⟨a, read, same⟩ := readPart_exact.mpr first
    obtain ⟨b, read', same'⟩ := readPart_exact.mpr second
    obtain ⟨c, read'', same''⟩ := readPart_exact.mpr third
    simp only [parts, read, read', read'', same, same', same'']

def numbers (v : Version) : List Char :=
  ['.'].intercalate [Nat.toDigits 10 v.major.toNat, Nat.toDigits 10 v.minor.toNat,
    Nat.toDigits 10 v.patch.toNat]

theorem text_toList (v : Version) : v.text.toList = 'v' :: v.numbers := by
  simp [text, numbers, ToString.toString, Nat.toList_repr]

theorem numbers_spelled (v : Version) : v.SpelledBy v.numbers := by
  have free : ∀ n, '.' ∉ Nat.toDigits 10 n := fun n => (denotes_toDigits n).not_mem (by decide)
  refine ⟨_, _, _, List.splitOn_intercalate '.' ?_ (List.cons_ne_nil _ _), spells_toDigits _,
    spells_toDigits _, spells_toDigits _⟩
  simp [free]

theorem mark_not_mem (v : Version) : 'v' ∉ v.numbers := by
  have free : ∀ n, 'v' ∉ Nat.toDigits 10 n := fun n => (denotes_toDigits n).not_mem (by decide)
  simp [numbers, free]

end Version

namespace Hint
variable {h : Hint} {text : String}

theorem text_toList (h : Hint) :
    h.text.toList = h.kind.toList ++ ['-', 'v'] ++ h.version.numbers := by
  simp [Hint.text, ToString.toString, Version.text_toList]

theorem text_spelled (h : Hint) : h.SpelledBy h.text ↔ h.kind ≠ "" := by
  refine ⟨And.left, fun named => ⟨named, h.version.numbers, ?_, h.version.numbers_spelled⟩⟩
  rw [h.text_toList]
  exact lastCut_of_free h.kind.toList ['-'] h.version.mark_not_mem

theorem read_exact : read? text = some h ↔ h.SpelledBy text := by
  unfold read?
  constructor
  · intro read
    split at read
    · cases read
    · cases read
    · rename_i kind version named cut
      obtain ⟨v, spelled, same⟩ := Option.map_eq_some_iff.mp read
      subst same
      refine ⟨?_, version, ?_, Version.read_exact.mp spelled⟩
      · intro unnamed
        exact named (String.ofList_eq_empty_iff.mp unnamed)
      · rw [String.toList_ofList]
        exact cutLast_parts (by decide) cut
  · intro ⟨named, version, cut, spelled⟩
    rw [(cutLast_exact (by decide)).mpr cut]
    cases name : h.kind.toList with
    | nil => exact absurd (String.toList_eq_nil_iff.mp name) named
    | cons c rest =>
      simp only [Version.read_exact.mpr spelled, ← name, String.ofList_toList, Option.map_some]

theorem ofString_ok : ofString text = .ok h ↔ h.SpelledBy text := by
  rw [← read_exact]
  unfold ofString
  cases read? text with
  | none => simp
  | some other => simp

theorem ofString_error {problem : Malformed} :
    ofString text = .error problem ↔ problem = .hint text ∧ ∀ h : Hint, ¬ h.SpelledBy text := by
  simp only [← read_exact]
  unfold ofString
  cases read? text with
  | none => simp [eq_comm]
  | some other => simp

end Hint

-- Every hint with a name is read back from its text. A text is read as a hint exactly when
-- it spells that hint: a name, the last "-v" of the text, and three numbers of sixteen bits
-- between points, each of them in digits with an optional plus sign. All other texts are
-- refused, and the refusal says which text it was.
theorem hintText_exact :
    (∀ h : Hint, Hint.ofString h.text = .ok h ↔ h.kind ≠ "") ∧
      (∀ (text : String) (h : Hint), Hint.ofString text = .ok h ↔ h.SpelledBy text) ∧
      ∀ (text : String) (problem : Malformed), Hint.ofString text = .error problem ↔
        problem = .hint text ∧ ∀ h : Hint, ¬ h.SpelledBy text := by
  refine ⟨fun h => ?_, fun text h => Hint.ofString_ok, fun text problem => Hint.ofString_error⟩
  rw [Hint.ofString_ok, Hint.text_spelled]

end SignedLedger

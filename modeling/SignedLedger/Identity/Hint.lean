import SignedLedger.Malformed
import SignedLedger.Text.Cut
import SignedLedger.Text.Whole

-- Type hints: a type name and a version, written name-v1.2.3. Hints of one name
-- and one major version stand for compatible types.
namespace SignedLedger

structure Version where
  major : UInt16
  minor : UInt16
  patch : UInt16
  deriving DecidableEq

namespace Version

def text (v : Version) : String := s!"v{v.major.toNat}.{v.minor.toNat}.{v.patch.toNat}"

instance : ToString Version := ⟨text⟩

def number (v : Version) : Nat := (v.major.toNat * 65536 + v.minor.toNat) * 65536 + v.patch.toNat

def read? (text : List Char) : Option Version :=
  match Text.pieces '.' text with
  | [major, minor, patch] =>
    match Text.readWhole 65536 major, Text.readWhole 65536 minor, Text.readWhole 65536 patch with
    | .ok a, .ok b, .ok c => some ⟨UInt16.ofNat a, UInt16.ofNat b, UInt16.ofNat c⟩
    | _, _, _ => none
  | _ => none

end Version

structure Hint where
  kind : String
  version : Version
  deriving DecidableEq

namespace Hint

def text (h : Hint) : String := s!"{h.kind}-{h.version}"

instance : ToString Hint := ⟨text⟩

-- The version starts behind the last "-v", so the name may hold that text too.
def read? (text : String) : Option Hint :=
  match Text.cutLast? ['-', 'v'] text.toList with
  | none => none
  | some ([], _) => none
  | some (kind, version) => (Version.read? version).map fun v => ⟨String.ofList kind, v⟩

def ofString (text : String) : Except Malformed Hint :=
  match read? text with
  | some hint => .ok hint
  | none => .error (.hint text)

def compatible (a b : Hint) : Bool := a.kind = b.kind && a.version.major = b.version.major

def Lt (a b : Hint) : Prop :=
  a.kind < b.kind ∨ (a.kind = b.kind ∧ a.version.number < b.version.number)

instance : LT Hint := ⟨Lt⟩

instance (a b : Hint) : Decidable (a < b) :=
  inferInstanceAs (Decidable (a.kind < b.kind ∨ (a.kind = b.kind ∧ a.version.number < b.version.number)))

def order (a b : Hint) : Ordering := if a < b then .lt else if a = b then .eq else .gt

end Hint
end SignedLedger

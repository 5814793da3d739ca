import SignedLedger.Proofs.Table
import SignedLedger.Session.Registry

-- What a lookup in one table of a registry finds: the entry of the hint itself, else the
-- highest version under the same name and major version. In the order of hints these are
-- exactly the ones between the lowest and the highest hint of that name and major version.
namespace SignedLedger

namespace Version

def Le (v w : Version) : Prop :=
  v.major < w.major ∨ (v.major = w.major ∧
    (v.minor < w.minor ∨ (v.minor = w.minor ∧ v.patch ≤ w.patch)))

theorem number_le_iff {v w : Version} : v.number ≤ w.number ↔ v.Le w := by
  have := v.minor.toNat_lt
  have := v.patch.toNat_lt
  have := w.minor.toNat_lt
  have := w.patch.toNat_lt
  simp only [Le, number, UInt16.lt_iff_toNat_lt, UInt16.le_iff_toNat_le, ← UInt16.toNat_inj]
  omega

theorem number_inj {v w : Version} (same : v.number = w.number) : v = w := by
  have := v.minor.toNat_lt
  have := v.patch.toNat_lt
  have := w.minor.toNat_lt
  have := w.patch.toNat_lt
  obtain ⟨major, minor, patch⟩ := v
  obtain ⟨major', minor', patch'⟩ := w
  simp only [number] at *
  simp only [mk.injEq, ← UInt16.toNat_inj]
  omega

theorem Le.antisymm {v w : Version} (le : v.Le w) (ge : w.Le v) : v = w :=
  number_inj (Nat.le_antisymm (number_le_iff.mpr le) (number_le_iff.mpr ge))

theorem number_between {v : Version} {major : UInt16} :
    (¬ v.number < (⟨major, 0, 0⟩ : Version).number ∧
      ¬ (⟨major, 65535, 65535⟩ : Version).number < v.number) ↔ v.major = major := by
  have := v.minor.toNat_lt
  have := v.patch.toNat_lt
  have zero : (0 : UInt16).toNat = 0 := rfl
  have last : (65535 : UInt16).toNat = 65535 := rfl
  simp only [number, zero, last, ← UInt16.toNat_inj]
  omega

end Version

namespace Hint

theorem lt_iff {a b : Hint} :
    a < b ↔ a.kind < b.kind ∨ (a.kind = b.kind ∧ a.version.number < b.version.number) := Iff.rfl

end Hint

instance : Trans (α := Hint) (· < ·) (· < ·) (· < ·) where
  trans := by
    intro a b c below above
    rcases below with name | ⟨same, version⟩
    · rcases above with name' | ⟨same', _⟩
      · exact .inl (String.lt_trans name name')
      · exact .inl (same' ▸ name)
    · rcases above with name' | ⟨same', version'⟩
      · exact .inl (same ▸ name')
      · exact .inr ⟨same.trans same', Nat.lt_trans version version'⟩

instance : Std.Irrefl (α := Hint) (· < ·) where
  irrefl := by
    rintro h (name | ⟨_, version⟩)
    · exact String.lt_irrefl _ name
    · exact Nat.lt_irrefl _ version

instance : Std.Trichotomous (α := Hint) (· < ·) where
  trichotomous := by
    intro a b unbelow unabove
    rw [Hint.lt_iff, not_or, not_and] at unbelow unabove
    have names : a.kind = b.kind := Std.Trichotomous.trichotomous _ _ unbelow.1 unabove.1
    have versions : a.version = b.version := by
      have := unbelow.2 names
      have := unabove.2 names.symm
      exact Version.number_inj (by omega)
    cases a
    cases b
    simp_all

namespace Registry
variable {table : Table Hint Maker} {hint low high : Hint}

-- Where what passes a test comes first, the entries up to the first that fails are all
-- that pass, and the entries from there on all that fail.
theorem takeWhile_eq_filter {α : Type} {p : α → Bool} {items : List α}
    (closed : items.Pairwise fun a b => p b = true → p a = true) :
    items.takeWhile p = items.filter p := by
  induction items with
  | nil => rfl
  | cons first rest ih =>
    obtain ⟨before, later⟩ := List.pairwise_cons.mp closed
    cases passes : p first with
    | true => rw [List.takeWhile_cons_of_pos passes, List.filter_cons_of_pos passes, ih later]
    | false =>
      have nothing : rest.filter p = [] := List.filter_eq_nil_iff.mpr fun other member holds => by
        have early := before other member holds
        rw [passes] at early
        cases early
      rw [List.takeWhile_cons_of_neg (by simp [passes]), List.filter_cons_of_neg (by simp [passes]),
        nothing]

theorem dropWhile_eq_filter {α : Type} {p : α → Bool} {items : List α}
    (closed : items.Pairwise fun a b => p b = true → p a = true) :
    items.dropWhile p = items.filter fun a => !p a := by
  induction items with
  | nil => rfl
  | cons first rest ih =>
    obtain ⟨before, later⟩ := List.pairwise_cons.mp closed
    cases passes : p first with
    | true =>
      rw [List.dropWhile_cons_of_pos passes, List.filter_cons_of_neg (by simp [passes]), ih later]
    | false =>
      rw [List.dropWhile_cons_of_neg (by simp [passes]), List.filter_eq_self.mpr]
      intro other member
      rcases List.mem_cons.mp member with rfl | behind
      · simp [passes]
      · cases holds : p other with
        | false => rfl
        | true =>
          have early := before other behind holds
          rw [passes] at early
          cases early

theorem lastBetween_eq (ascending : Table.Ascending table) :
    lastBetween low high table =
      ((table.filter fun entry => ¬ entry.1 < low ∧ ¬ high < entry.1).getLast?.map Prod.snd) := by
  have front : table.Pairwise fun a b => decide (b.1 < low) = true → decide (a.1 < low) = true :=
    ascending.imp fun {a b} below under => by
      rw [decide_eq_true_eq] at under ⊢
      exact Std.lt_trans below under
  have back : (table.filter fun entry => !decide (entry.1 < low)).Pairwise
      fun a b => (!decide (high < b.1)) = true → (!decide (high < a.1)) = true :=
    (ascending.filter _).imp fun {a b} below within => by
      simp only [Bool.not_eq_true', decide_eq_false_iff_not] at within ⊢
      exact fun above => within (Std.lt_trans above below)
  unfold lastBetween
  dsimp only
  rw [dropWhile_eq_filter front, takeWhile_eq_filter back, List.filter_filter]
  congr 2
  refine List.filter_congr fun entry _ => ?_
  simp [and_comm]

-- The hints between the first and the last version of a major version are those of that
-- name and major version.
theorem between_iff {h : Hint} {kind : String} {major : UInt16} :
    (¬ h < ⟨kind, ⟨major, 0, 0⟩⟩ ∧ ¬ (⟨kind, ⟨major, 65535, 65535⟩⟩ : Hint) < h) ↔
      h.kind = kind ∧ h.version.major = major := by
  simp only [Hint.lt_iff, not_or, not_and]
  constructor
  · rintro ⟨above, below⟩
    have name : h.kind = kind := Std.Trichotomous.trichotomous _ _ above.1 below.1
    exact ⟨name, Version.number_between.mp ⟨above.2 name, below.2 name.symm⟩⟩
  · rintro ⟨rfl, same⟩
    obtain ⟨above, below⟩ := Version.number_between.mpr same
    exact ⟨⟨String.lt_irrefl _, fun _ => above⟩, String.lt_irrefl _, fun _ => below⟩

-- What a lookup is to find among entries by hint.
inductive Picks (entry : Hint → Option Maker) (hint : Hint) : Option Maker → Prop where
  | exact {maker : Maker} (there : entry hint = some maker) : Picks entry hint (some maker)
  | highest {version : Version} {maker : Maker} (absent : entry hint = none)
      (major : version.major = hint.version.major)
      (there : entry ⟨hint.kind, version⟩ = some maker)
      (top : ∀ other : Version, other.major = hint.version.major →
        (entry ⟨hint.kind, other⟩).isSome = true → other.Le version) :
      Picks entry hint (some maker)
  | none (incompatible : ∀ version : Version, version.major = hint.version.major →
        entry ⟨hint.kind, version⟩ = none) :
      Picks entry hint none

theorem Picks.unique {entry : Hint → Option Maker} {found found' : Option Maker}
    (picked : Picks entry hint found) (picked' : Picks entry hint found') : found = found' := by
  cases picked with
  | exact there =>
    cases picked' with
    | exact there' => exact there.symm.trans there'
    | highest absent => exact absurd (there.symm.trans absent) nofun
    | none incompatible => exact there.symm.trans (incompatible hint.version rfl)
  | highest absent major there top =>
    cases picked' with
    | exact there' => exact absurd (there'.symm.trans absent) nofun
    | highest _ major' there' top' =>
      have le := top' _ major (Option.isSome_of_eq_some there)
      have ge := top _ major' (Option.isSome_of_eq_some there')
      obtain rfl := le.antisymm ge
      exact there.symm.trans there'
    | none incompatible => exact there.symm.trans (incompatible _ major)
  | none incompatible =>
    cases picked' with
    | exact there => exact (incompatible hint.version rfl).symm.trans there
    | highest _ major there => exact (incompatible _ major).symm.trans there
    | none => rfl

theorem getLast_above (ascending : Table.Ascending table) {last : Hint × Maker}
    (found : table.getLast? = some last) : ∀ entry ∈ table, entry = last ∨ entry.1 < last.1 := by
  obtain ⟨before, rfl⟩ := List.getLast?_eq_some_iff.mp found
  intro entry member
  rcases List.mem_append.mp member with early | here
  · exact .inr ((List.pairwise_append.mp ascending).2.2 entry early last (List.mem_singleton_self _))
  · exact .inl (List.mem_singleton.mp here)

theorem findCompatible_picks (ascending : Table.Ascending table) :
    Picks table.find? hint (findCompatible table hint) := by
  unfold findCompatible
  split
  · rename_i there
    exact .exact there
  · rename_i absent
    dsimp only
    rw [lastBetween_eq ascending]
    simp only [between_iff]
    -- Every entry that could serve lies in the range, so the last one there is the highest.
    have listed {version : Version} {maker : Maker} (major : version.major = hint.version.major)
        (there : table.find? ⟨hint.kind, version⟩ = some maker) :
        (⟨hint.kind, version⟩, maker) ∈ table.filter fun entry =>
          entry.1.kind = hint.kind ∧ entry.1.version.major = hint.version.major :=
      List.mem_filter.mpr ⟨Table.find_mem there, by simp [major]⟩
    cases found : (table.filter fun entry =>
        entry.1.kind = hint.kind ∧ entry.1.version.major = hint.version.major).getLast? with
    | none =>
      rw [List.getLast?_eq_none_iff] at found
      refine .none fun version major => ?_
      cases there : table.find? ⟨hint.kind, version⟩ with
      | none => rfl
      | some maker => exact absurd (found ▸ listed major there) List.not_mem_nil
    | some last =>
      obtain ⟨member, compatible⟩ := List.mem_filter.mp (List.mem_of_getLast? found)
      simp only [decide_eq_true_eq] at compatible
      obtain ⟨name, major⟩ := compatible
      refine .highest absent major (Table.find_of_mem ascending (name ▸ member)) ?_
      intro other major' there
      obtain ⟨maker, there⟩ := Option.isSome_iff_exists.mp there
      rcases getLast_above (ascending.filter _) found _ (listed major' there) with same | below
      · rw [← same]
        exact Version.number_le_iff.mp (Nat.le_refl _)
      · refine Version.number_le_iff.mp (Nat.le_of_lt ?_)
        rcases below with apart | ⟨_, smaller⟩
        · exact absurd (name ▸ apart) (String.lt_irrefl _)
        · exact smaller

end Registry
end SignedLedger

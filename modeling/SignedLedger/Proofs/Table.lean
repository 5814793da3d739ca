import Mathlib.Tactic.ByContra
import SignedLedger.Proofs.Check
import SignedLedger.Table

-- Tables as functions of their keys. A fold that touches one key a step splits into
-- one fold for each key.
namespace SignedLedger.Table
open Check

section Keys
variable {κ α : Type} [DecidableEq κ]

theorem find_nil (k : κ) : (find? ([] : Table κ α) k) = none := rfl

theorem find_cons (entry : κ × α) (rest : Table κ α) (k : κ) :
    find? (entry :: rest) k = if entry.1 = k then some entry.2 else find? rest k := by
  unfold find?
  rw [List.find?_cons]
  by_cases same : entry.1 = k
  · simp [same]
  · simp [same]

theorem find_mem {table : Table κ α} {k : κ} {value : α} (found : table.find? k = some value) :
    (k, value) ∈ table := by
  unfold find? at found
  obtain ⟨entry, first, rfl⟩ := Option.map_eq_some_iff.mp found
  have same : entry.1 = k := by simpa using List.find?_some first
  rw [← same]
  exact List.mem_of_find?_eq_some first

end Keys

section Find
variable {κ α : Type} [LT κ] [DecidableLT κ] [DecidableEq κ]

theorem find_set (table : Table κ α) (key : κ) (value : α) (k : κ) :
    (table.set key value).find? k = if key = k then some value else table.find? k := by
  induction table with
  | nil => rw [set, find_cons]
  | cons entry rest ih =>
    obtain ⟨first, old⟩ := entry
    unfold set
    split
    · rw [find_cons]
    · split
      · rename_i same
        subst same
        rw [find_cons, find_cons]
        split
        · rfl
        · rfl
      · rename_i apart
        rw [find_cons, ih, find_cons]
        by_cases same : first = k
        · subst same
          simp [apart]
        · simp [same]

theorem mem_set {table : Table κ α} {key : κ} {value : α} {entry : κ × α}
    (member : entry ∈ table.set key value) : entry = (key, value) ∨ entry ∈ table := by
  induction table with
  | nil => exact .inl (List.mem_singleton.mp member)
  | cons first rest ih =>
    unfold set at member
    split at member
    · rcases List.mem_cons.mp member with rfl | old
      · exact .inl rfl
      · exact .inr old
    · split at member
      · rcases List.mem_cons.mp member with rfl | old
        · exact .inl rfl
        · exact .inr (List.mem_cons_of_mem _ old)
      · rcases List.mem_cons.mp member with rfl | old
        · exact .inr List.mem_cons_self
        · rcases ih old with new | kept
          · exact .inl new
          · exact .inr (List.mem_cons_of_mem _ kept)

-- A fold that at every step changes the entry of one key and looks at no other.
def update {β ε : Type} (key : β → κ) (change : Option α → β → Except ε α) (table : Table κ α)
    (step : β) : Except ε (Table κ α) := do
  let value ← change (table.find? (key step)) step
  return table.set (key step) value

def changeEntry {β ε : Type} (change : Option α → β → Except ε α) (entry : Option α) (step : β) :
    Except ε (Option α) := do
  return some (← change entry step)

theorem update_ok {β ε : Type} {key : β → κ} {change : Option α → β → Except ε α}
    {table result : Table κ α} {step : β} (done : update key change table step = .ok result) :
    ∃ value, change (table.find? (key step)) step = .ok value ∧
      result = table.set (key step) value := by
  unfold update at done
  simp only [bind_ok, pure_ok] at done
  obtain ⟨value, changed, rfl⟩ := done
  exact ⟨value, changed, rfl⟩

theorem foldlM_find {β ε : Type} {key : β → κ} {change : Option α → β → Except ε α}
    {steps : List β} {table result : Table κ α}
    (done : steps.foldlM (update key change) table = .ok result) (k : κ) :
    (steps.filter fun step => key step = k).foldlM (changeEntry change) (table.find? k) =
      .ok (result.find? k) := by
  induction steps generalizing table with
  | nil =>
    cases done
    rfl
  | cons step rest ih =>
    rw [List.foldlM_cons, bind_ok] at done
    obtain ⟨next, changed, later⟩ := done
    obtain ⟨value, found, rfl⟩ := update_ok changed
    have tail := ih later
    rw [find_set] at tail
    by_cases same : key step = k
    · subst same
      rw [if_pos rfl] at tail
      rw [List.filter_cons_of_pos (by simp), List.foldlM_cons]
      simp only [changeEntry, found]
      exact tail
    · rw [if_neg same] at tail
      rw [List.filter_cons_of_neg (by simpa using same)]
      exact tail

-- Such a fold goes through when the folds of all keys do.
theorem foldlM_succeeds {β ε : Type} {key : β → κ} {change : Option α → β → Except ε α}
    {steps : List β} {table : Table κ α} :
    (∃ result, steps.foldlM (update key change) table = .ok result) ↔
      ∀ k, ∃ entry, (steps.filter fun step => key step = k).foldlM (changeEntry change)
        (table.find? k) = .ok entry := by
  constructor
  · rintro ⟨result, done⟩ k
    exact ⟨_, foldlM_find done k⟩
  · intro each
    induction steps generalizing table with
    | nil => exact ⟨table, rfl⟩
    | cons step rest ih =>
      obtain ⟨entry, folded⟩ := each (key step)
      rw [List.filter_cons_of_pos (by simp), List.foldlM_cons, bind_ok] at folded
      obtain ⟨next, changed, _⟩ := folded
      unfold changeEntry at changed
      simp only [bind_ok, pure_ok] at changed
      obtain ⟨value, found, rfl⟩ := changed
      have stepped : update key change table step = .ok (table.set (key step) value) := by
        unfold update
        rw [found]
        rfl
      obtain ⟨result, later⟩ : ∃ result,
          rest.foldlM (update key change) (table.set (key step) value) = .ok result := ih fun k => by
        obtain ⟨entry, folded⟩ := each k
        rw [find_set]
        by_cases same : key step = k
        · subst same
          rw [List.filter_cons_of_pos (by simp), List.foldlM_cons, changeEntry, found] at folded
          rw [if_pos rfl]
          exact ⟨entry, folded⟩
        · rw [List.filter_cons_of_neg (by simpa using same)] at folded
          rw [if_neg same]
          exact ⟨entry, folded⟩
      refine ⟨result, ?_⟩
      rw [List.foldlM_cons, stepped]
      exact later

end Find

def Ascending {κ α : Type} [LT κ] (table : Table κ α) : Prop :=
  table.Pairwise fun a b => a.1 < b.1

theorem find_of_mem {κ α : Type} [LT κ] [DecidableEq κ] [Std.Irrefl (α := κ) (· < ·)]
    {table : Table κ α} (ascending : Ascending table) {k : κ} {value : α}
    (member : (k, value) ∈ table) : table.find? k = some value := by
  induction table with
  | nil => cases member
  | cons entry rest ih =>
    obtain ⟨below, ordered⟩ := List.pairwise_cons.mp ascending
    rw [find_cons]
    rcases List.mem_cons.mp member with rfl | later
    · rw [if_pos rfl]
    · have apart : entry.1 ≠ k := fun same => Std.lt_irrefl (same ▸ below _ later)
      rw [if_neg apart]
      exact ih ordered later

section Order
variable {κ α : Type} [LT κ] [DecidableLT κ] [DecidableEq κ]
  [Trans (α := κ) (· < ·) (· < ·) (· < ·)] [Std.Trichotomous (α := κ) (· < ·)]

theorem set_ascending {table : Table κ α} (ascending : Ascending table) (key : κ) (value : α) :
    Ascending (table.set key value) := by
  induction table with
  | nil => exact List.pairwise_singleton _ _
  | cons entry rest ih =>
    obtain ⟨first, old⟩ := entry
    obtain ⟨below, ordered⟩ := List.pairwise_cons.mp ascending
    unfold set
    split
    · rename_i smaller
      refine List.pairwise_cons.mpr ⟨fun entry member => ?_, ascending⟩
      rcases List.mem_cons.mp member with rfl | later
      · exact smaller
      · exact Std.lt_trans smaller (below entry later)
    · split
      · rename_i same
        subst same
        exact List.pairwise_cons.mpr ⟨below, ordered⟩
      · rename_i above apart
        refine List.pairwise_cons.mpr ⟨fun entry member => ?_, ih ordered⟩
        rcases mem_set member with rfl | later
        · by_contra unordered
          exact apart (Std.Trichotomous.trichotomous key first above unordered)
        · exact below entry later

theorem foldlM_ascending {β ε : Type} {key : β → κ} {change : Option α → β → Except ε α}
    {steps : List β} {table result : Table κ α} (ascending : Ascending table)
    (done : steps.foldlM (update key change) table = .ok result) : Ascending result := by
  induction steps generalizing table with
  | nil =>
    cases done
    exact ascending
  | cons step rest ih =>
    rw [List.foldlM_cons, bind_ok] at done
    obtain ⟨next, changed, later⟩ := done
    obtain ⟨value, _, rfl⟩ := update_ok changed
    exact ih (set_ascending ascending _ _) later

end Order
end SignedLedger.Table

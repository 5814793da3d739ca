import SignedLedger.Proofs.State.Key
import SignedLedger.Proofs.Table
import SignedLedger.State.Merge

-- What is merged under one key: a key's merger sees the values of that key only, in
-- the order in which they come.
namespace SignedLedger
open Check

def MergeValue.applyTo (delta : Decimal) : MergeValue → Option Decimal
  | .credit _ amount => delta.add? amount.value
  | .debit _ amount => delta.sub? amount.value
  | .set _ _ => none

structure BalanceMerger.Sums (merger : BalanceMerger) (reader : Reader) (key : String)
    (values : List MergeValue) : Prop where
  currency : ∃ owner, StateKey.readBalance? key = some (owner, merger.currency)
  committed : ∃ stored, Lookup.balanceByKey reader key = .ok stored ∧
    merger.committed = stored.getD Decimal.zero
  delta : values.foldlM MergeValue.applyTo Decimal.zero = some merger.delta

inductive Merger.After (reader : Reader) (height : Height) (key : String)
    (values : List MergeValue) : Merger → Prop where
  | balance (operations : List Digest) {merger : BalanceMerger}
      (kinds : ∀ value ∈ values, value.kind = .balance) (sums : merger.Sums reader key values) :
      After reader height key values ⟨key, height, .balance merger, operations⟩
  | set (operations : List Digest) {merger : SetMerger}
      (kinds : ∀ value ∈ values, value.kind = .set)
      (first : merger.value = values.head?.map MergeValue.value) :
      After reader height key values ⟨key, height, .set merger, operations⟩

def openMerger (height : Height) (reader : Reader) (entry : Option Merger) (value : MergeValue) :
    Except Fault Merger :=
  match entry with
  | some merger => .ok merger
  | none => do Merger.start value.kind height value.key (← reader value.key)

def mergeStep (height : Height) (reader : Reader) (entry : Option Merger)
    (touch : Digest × MergeValue) : Except Fault Merger := do
  let merger ← openMerger height reader entry touch.2
  if merger.kind = touch.2.kind then merger.merge touch.2.value touch.1
  else throw (.invariant (.mixedMergers touch.2.key))

theorem mergeInto_update (height : Height) (reader : Reader) :
    mergeInto height reader =
      Table.update (fun touch => touch.2.key) (mergeStep height reader) := by
  funext mergers touch
  have same : mergerFor height reader mergers touch.2 =
      openMerger height reader (mergers.find? touch.2.key) touch.2 := by
    unfold mergerFor openMerger
    rfl
  unfold mergeInto Table.update mergeStep
  dsimp only
  rw [same]
  cases openMerger height reader (mergers.find? touch.2.key) touch.2 with
  | error fault => rfl
  | ok merger =>
    simp only [bind, Except.bind]
    split
    · rfl
    · rfl

namespace Merger
variable {reader : Reader} {height : Height} {key : String} {values : List MergeValue}
  {m : Merger} {touch : Digest × MergeValue}

theorem startBalance_sums {existing : Option State} {merger : BalanceMerger}
    (read : reader key = .ok existing) (started : startBalance key existing = .ok merger) :
    merger.Sums reader key [] := by
  unfold startBalance at started
  split at started
  · cases started
  · rename_i owner currency named
    split at started
    · cases started
      exact ⟨⟨owner, named⟩, ⟨none, by rw [Lookup.balanceByKey, Lookup.read, read]; rfl, rfl⟩, rfl⟩
    · rename_i state
      split at started
      · rename_i amount held
        cases started
        refine ⟨⟨owner, named⟩, ⟨some amount.value, ?_, rfl⟩, rfl⟩
        rw [Lookup.balanceByKey, Lookup.read, read]
        simp only [bind, Except.bind, Lookup.typed, held]
      · cases started

theorem start_after {kind : MergerKind} {existing : Option State}
    (read : reader key = .ok existing) (started : start kind height key existing = .ok m) :
    m.After reader height key [] := by
  unfold start at started
  cases kind with
  | set =>
    cases started
    exact .set [] (by simp) rfl
  | balance =>
    simp only [bind_ok, pure_ok] at started
    obtain ⟨merger, begun, rfl⟩ := started
    exact .balance [] (by simp) (startBalance_sums read begun)

theorem ownAmount_ok {merger : BalanceMerger} {amount : Amount} {change : Decimal}
    (own : ownAmount key merger amount = .ok change) : change = amount.value := by
  unfold ownAmount at own
  split at own
  · exact (Except.ok.inj own).symm
  · cases own

theorem withDelta_ok {merger next : BalanceMerger} {delta : Option Decimal}
    (taken : withDelta key merger delta = .ok next) :
    delta = some next.delta ∧ next.currency = merger.currency ∧
      next.committed = merger.committed := by
  unfold withDelta at taken
  split at taken
  · cases taken
    exact ⟨rfl, rfl, rfl⟩
  · cases taken

theorem mergeBalance_ok {merger next : BalanceMerger} {value : MergeValue}
    (balanced : value.kind = .balance) (merged : mergeBalance key merger value.value = .ok next) :
    value.applyTo merger.delta = some next.delta ∧ next.currency = merger.currency ∧
      next.committed = merger.committed := by
  cases value with
  | set _ _ => cases balanced
  | credit _ amount =>
    simp only [mergeBalance, MergeValue.value, bind_ok] at merged
    obtain ⟨change, own, taken⟩ := merged
    rw [ownAmount_ok own] at taken
    exact withDelta_ok taken
  | debit _ amount =>
    simp only [mergeBalance, MergeValue.value, bind_ok] at merged
    obtain ⟨change, own, taken⟩ := merged
    rw [ownAmount_ok own] at taken
    exact withDelta_ok taken

theorem mergeSet_ok {merger next : SetMerger} {value : StateValue}
    (merged : mergeSet key merger value = .ok next) :
    next.value = some (merger.value.getD value) := by
  unfold mergeSet at merged
  split at merged
  · rename_i fresh
    cases merged
    rw [fresh]
    rfl
  · rename_i current held
    split at merged
    · cases merged
      rw [held]
      rfl
    · cases merged

theorem merge_after {operation : Digest} {value : MergeValue} {next : Merger}
    (after : m.After reader height key values) (kind : m.kind = value.kind)
    (merged : m.merge value.value operation = .ok next) :
    next.After reader height key (values ++ [value]) := by
  unfold merge at merged
  simp only [bind_ok, pure_ok] at merged
  obtain ⟨state, stepped, rfl⟩ := merged
  cases after with
  | @balance operations merger kinds sums =>
    simp only [mergeState, bind_ok, pure_ok] at stepped
    obtain ⟨following, taken, rfl⟩ := stepped
    obtain ⟨changed, currency, committed⟩ := mergeBalance_ok kind.symm taken
    obtain ⟨named, stored, delta⟩ := sums
    refine .balance _ ?_ ⟨currency ▸ named, committed ▸ stored, ?_⟩
    · simpa [or_imp, forall_and] using ⟨kinds, kind.symm⟩
    · rw [List.foldlM_append, delta]
      simpa using changed
  | @set operations merger kinds first =>
    simp only [mergeState, bind_ok, pure_ok] at stepped
    obtain ⟨following, taken, rfl⟩ := stepped
    refine .set _ ?_ ?_
    · simpa [or_imp, forall_and] using ⟨kinds, kind.symm⟩
    · rw [mergeSet_ok taken, first]
      cases values with
      | nil => rfl
      | cons head rest => rfl

def EntryAfter (reader : Reader) (height : Height) (key : String) (values : List MergeValue) :
    Option Merger → Prop
  | none => values = []
  | some m => values ≠ [] ∧ m.After reader height key values

theorem mergeStep_after {entry : Option Merger} (after : EntryAfter reader height key values entry)
    (same : touch.2.key = key) (stepped : mergeStep height reader entry touch = .ok m) :
    m.After reader height key (values ++ [touch.2]) := by
  unfold mergeStep at stepped
  simp only [bind_ok] at stepped
  obtain ⟨opened, found, stepped⟩ := stepped
  have before : opened.After reader height key values := by
    cases entry with
    | some held =>
      cases found
      exact after.2
    | none =>
      subst same
      rw [show values = [] from after]
      simp only [openMerger, bind_ok] at found
      obtain ⟨existing, read, started⟩ := found
      exact start_after read started
  split at stepped
  · rename_i kind
    exact merge_after before kind stepped
  · simp at stepped

theorem entry_after {touches : List (Digest × MergeValue)} {entry result : Option Merger}
    (after : EntryAfter reader height key values entry)
    (same : ∀ touch ∈ touches, touch.2.key = key)
    (merged : touches.foldlM (Table.changeEntry (mergeStep height reader)) entry = .ok result) :
    EntryAfter reader height key (values ++ touches.map Prod.snd) result := by
  induction touches generalizing entry values with
  | nil =>
    cases merged
    simpa using after
  | cons touch rest ih =>
    rw [List.foldlM_cons, bind_ok] at merged
    obtain ⟨next, stepped, later⟩ := merged
    unfold Table.changeEntry at stepped
    simp only [bind_ok, pure_ok] at stepped
    obtain ⟨following, stepped, rfl⟩ := stepped
    have step := mergeStep_after after (same touch List.mem_cons_self) stepped
    have kept : EntryAfter reader height key (values ++ [touch.2]) (some following) :=
      ⟨by simp, step⟩
    have tail := ih kept (fun other member => same other (List.mem_cons_of_mem _ member)) later
    simpa using tail

theorem After.key_eq (after : m.After reader height key values) : m.key = key := by
  cases after with
  | balance _ _ _ => rfl
  | set _ _ _ => rfl

theorem close_ok {state : State} (closed : m.close = .ok state) :
    state.key = m.key ∧ state.height = m.height ∧ state.operations = m.operations ∧
      m.closeValue = .ok state.value := by
  unfold close at closed
  simp only [bind_ok, pure_ok] at closed
  obtain ⟨value, found, rfl⟩ := closed
  exact ⟨rfl, rfl, rfl, found⟩

theorem closeBalance_ok {merger : BalanceMerger} {value : StateValue}
    (closed : closeBalance key merger = .ok value) :
    ∃ total, merger.committed.add? merger.delta = some total ∧ total.isNegative = false ∧
      value = .balance ⟨merger.currency, total⟩ := by
  unfold closeBalance at closed
  split at closed
  · cases closed
  · rename_i total added
    split at closed
    · cases closed
    · rename_i kept
      cases closed
      exact ⟨total, added, by simpa using kept, rfl⟩

end Merger

def valuesAt (key : String) (batches : List Batch) : List MergeValue :=
  (batches.flatMap Prod.snd).filter fun value => value.key = key

theorem touches_at (key : String) (batches : List Batch) :
    ((touches batches).filter fun touch => touch.2.key = key).map Prod.snd =
      valuesAt key batches := by
  unfold touches valuesAt
  induction batches with
  | nil => rfl
  | cons batch rest ih =>
    rw [List.flatMap_cons, List.flatMap_cons, List.filter_append, List.filter_append,
      List.map_append, ih, List.filter_map, List.map_map]
    congr 1
    exact (List.map_congr_left fun value _ => rfl).trans (List.map_id _)

section Block
variable {height : Height} {batches : List Batch} {reader : Reader}

structure Mergers.Of (mergers : Mergers) (height : Height) (reader : Reader)
    (batches : List Batch) : Prop where
  ascending : Table.Ascending mergers
  after : ∀ key, Merger.EntryAfter reader height key (valuesAt key batches) (mergers.find? key)

theorem Mergers.Of.after_of_mem {mergers : Mergers} (of : mergers.Of height reader batches)
    {entry : String × Merger} (member : entry ∈ mergers) :
    valuesAt entry.1 batches ≠ [] ∧
      entry.2.After reader height entry.1 (valuesAt entry.1 batches) := by
  have after := of.after entry.1
  rw [Table.find_of_mem of.ascending member] at after
  exact after

theorem mergers_of {mergers : Mergers}
    (merged : (touches batches).foldlM (mergeInto height reader) [] = .ok mergers) :
    mergers.Of height reader batches := by
  rw [mergeInto_update] at merged
  refine ⟨Table.foldlM_ascending .nil merged, fun key => ?_⟩
  have folded := Table.foldlM_find merged key
  rw [Table.find_nil] at folded
  have start : Merger.EntryAfter reader height key [] none := rfl
  have after := Merger.entry_after start
    (fun touch member => by simpa using (List.mem_filter.mp member).2) folded
  rwa [List.nil_append, touches_at] at after

theorem applyMerges_ok {states : List State}
    (written : applyMerges height batches reader = .ok states) :
    ∃ mergers : Mergers, mergers.Of height reader batches ∧
      mergers.mapM (fun entry => entry.2.close) = .ok states := by
  unfold applyMerges at written
  simp only [bind_ok] at written
  obtain ⟨mergers, merged, closed⟩ := written
  exact ⟨mergers, mergers_of merged, closed⟩

theorem mem_touches {touch : Digest × MergeValue} (member : touch ∈ touches batches) :
    touch.2 ∈ batches.flatMap Prod.snd := by
  obtain ⟨batch, listed, inside⟩ := List.mem_flatMap.mp member
  obtain ⟨value, held, rfl⟩ := List.mem_map.mp inside
  exact List.mem_flatMap.mpr ⟨batch, listed, held⟩

-- A block that cannot be written fails at one value, after some others of its key, or at
-- the close of one key.
theorem applyMerges_refused {fault : Fault}
    (failed : applyMerges height batches reader = .error fault) :
    (∃ values entry touch, (∀ value ∈ values, value ∈ batches.flatMap Prod.snd ∧
        value.key = touch.2.key) ∧ touch.2 ∈ batches.flatMap Prod.snd ∧
      Merger.EntryAfter reader height touch.2.key values entry ∧
      mergeStep height reader entry touch = .error fault) ∨
      ∃ mergers : Mergers, mergers.Of height reader batches ∧
        ∃ entry ∈ mergers, entry.2.close = .error fault := by
  unfold applyMerges at failed
  rcases bind_error.mp failed with merging | ⟨mergers, merged, closing⟩
  · rw [mergeInto_update] at merging
    obtain ⟨before, touch, after, reached, split, merged, stopped⟩ := foldlM_error merging
    unfold Table.update at stopped
    rcases bind_error.mp stopped with change | ⟨_, _, none⟩
    · have folded := Table.foldlM_find merged touch.2.key
      rw [Table.find_nil] at folded
      have start : Merger.EntryAfter reader height touch.2.key [] none := rfl
      have entered := Merger.entry_after start
        (fun other member => by simpa using (List.mem_filter.mp member).2) folded
      refine .inl ⟨_, _, touch, fun value member => ?_, mem_touches (by simp [split]), entered, change⟩
      rw [List.nil_append] at member
      obtain ⟨other, held, rfl⟩ := List.mem_map.mp member
      obtain ⟨earlier, same⟩ := List.mem_filter.mp held
      exact ⟨mem_touches (by simp [split, earlier]), by simpa using same⟩
    · cases none
  · exact .inr ⟨mergers, mergers_of merged, mapM_error closing⟩

theorem applyMerges_error {fault : Fault}
    (failed : applyMerges height batches reader = .error fault) :
    (∃ entry touch, mergeStep height reader entry touch = .error fault) ∨
      ∃ mergers : Mergers, mergers.Of height reader batches ∧
        ∃ entry ∈ mergers, entry.2.close = .error fault := by
  rcases applyMerges_refused failed with ⟨_, entry, touch, _, _, _, stopped⟩ | closing
  · exact .inl ⟨entry, touch, stopped⟩
  · exact .inr closing

end Block
end SignedLedger

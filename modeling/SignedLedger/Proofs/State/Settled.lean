import SignedLedger.Proofs.State.Written

-- What a block writes, exactly. A key has a settled value when its values go together
-- and the store can be read; a block is written when every key that it touches is
-- settled, and then it writes just these values.
namespace SignedLedger
open Check

def gather (operations : List Digest) (touches : List (Digest × MergeValue)) : List Digest :=
  (touches.map Prod.fst).foldl pushOperation operations

theorem mem_gather {operations : List Digest} {touches : List (Digest × MergeValue)}
    {operation : Digest} :
    operation ∈ gather operations touches ↔
      operation ∈ operations ∨ operation ∈ touches.map Prod.fst := by
  unfold gather
  induction touches generalizing operations with
  | nil => simp
  | cons touch rest ih =>
    rw [List.map_cons, List.foldl_cons, ih, List.mem_cons, ← or_assoc]
    refine or_congr_left ?_
    unfold pushOperation
    split
    · rename_i known
      have member : touch.1 ∈ operations := by simpa using known
      exact ⟨.inl, fun either => either.elim id fun same => same ▸ member⟩
    · simp

inductive Settled (reader : Reader) (key : String) (values : List MergeValue) : StateValue → Prop where
  | set {first : StateValue} (kinds : ∀ value ∈ values, value.kind = .set)
      (head : values.head?.map MergeValue.value = some first)
      (agree : ∀ value ∈ values, first.agrees value.value = true)
      (readable : ∃ found, reader key = .ok found) : Settled reader key values first
  | balance {owner : Address} {currency : Currency} {stored : Option Decimal} {delta total : Decimal}
      (touched : values ≠ []) (kinds : ∀ value ∈ values, value.kind = .balance)
      (named : StateKey.readBalance? key = some (owner, currency))
      (read : Lookup.balanceByKey reader key = .ok stored)
      (summed : values.foldlM MergeValue.applyTo Decimal.zero = some delta)
      (added : (stored.getD Decimal.zero).add? delta = some total)
      (nonneg : total.isNegative = false) : Settled reader key values (.balance ⟨currency, total⟩)

theorem kinds_apart {values : List MergeValue} (touched : values ≠ [])
    (balance : ∀ value ∈ values, value.kind = .balance) (set : ∀ value ∈ values, value.kind = .set) :
    False := by
  obtain ⟨value, member⟩ := List.exists_mem_of_ne_nil values touched
  cases (balance value member).symm.trans (set value member)

theorem Settled.unique {reader : Reader} {key : String} {values : List MergeValue}
    {value other : StateValue} (settled : Settled reader key values value)
    (again : Settled reader key values other) : value = other := by
  cases settled with
  | set kinds head _ _ =>
    cases again with
    | set _ head' _ _ => exact Option.some.inj (head.symm.trans head')
    | balance touched kinds' _ _ _ _ _ => exact (kinds_apart touched kinds' kinds).elim
  | balance touched kinds named read summed added _ =>
    cases again with
    | set kinds' _ _ _ => exact (kinds_apart touched kinds kinds').elim
    | balance _ _ named' read' summed' added' _ =>
      cases named.symm.trans named'
      cases read.symm.trans read'
      cases summed.symm.trans summed'
      cases added.symm.trans added'
      rfl

namespace Merger
variable {reader : Reader} {height : Height} {key : String} {operations : List Digest}
  {touch : Digest × MergeValue} {touches : List (Digest × MergeValue)} {m : Merger}
  {entry : Option Merger}

theorem mergeStep_set {value : StateValue} :
    mergeStep height reader (some ⟨key, height, .set ⟨some value⟩, operations⟩) touch = .ok m ↔
      (touch.2.kind = .set ∧ value.agrees touch.2.value = true) ∧
        m = ⟨key, height, .set ⟨some value⟩, pushOperation operations touch.1⟩ := by
  unfold mergeStep openMerger
  simp only [bind_ok, Except.ok.injEq, exists_eq_left', kind]
  cases touch.2.kind with
  | balance => simp
  | set =>
    simp only [if_true, merge, mergeState, mergeSet, bind_ok, pure_ok, true_and]
    cases value.agrees touch.2.value with
    | false => simp
    | true => simp [eq_comm]

theorem withDelta_exact {merger next : BalanceMerger} {sum : Option Decimal} :
    withDelta key merger sum = .ok next ↔ ∃ delta, sum = some delta ∧ next = { merger with delta } := by
  cases sum with
  | none => simp [withDelta]
  | some delta => simp [withDelta, eq_comm]

-- The currency of a change is that of its key, which is the one of the merger.
theorem mergeBalance_exact {owner : Address} {merger next : BalanceMerger} {value : MergeValue}
    (named : StateKey.readBalance? value.key = some (owner, merger.currency))
    (balanced : value.kind = .balance) :
    mergeBalance value.key merger value.value = .ok next ↔
      ∃ delta, value.applyTo merger.delta = some delta ∧ next = { merger with delta } := by
  have own {a : Address} {amount : Amount}
      (same : StateKey.readBalance? (StateKey.balance a amount.currency) =
        some (owner, merger.currency)) (key : String) :
      ownAmount key merger amount = .ok amount.value := by
    rw [StateKey.readBalance_balance] at same
    exact if_pos (Prod.mk.inj (Option.some.inj same)).2
  cases value with
  | set _ _ => cases balanced
  | credit a amount =>
    simp only [mergeBalance, MergeValue.value, bind_ok, own named, Except.ok.injEq, exists_eq_left',
      withDelta_exact, MergeValue.applyTo]
  | debit a amount =>
    simp only [mergeBalance, MergeValue.value, bind_ok, own named, Except.ok.injEq, exists_eq_left',
      withDelta_exact, MergeValue.applyTo]

theorem applyTo_kind {value : MergeValue} {a b : Decimal} (applied : value.applyTo a = some b) :
    value.kind = .balance := by
  cases value with
  | set _ _ => cases applied
  | credit _ _ => rfl
  | debit _ _ => rfl

theorem mergeStep_balance {owner : Address} (merger : BalanceMerger)
    (named : StateKey.readBalance? key = some (owner, merger.currency)) (same : touch.2.key = key) :
    mergeStep height reader (some ⟨key, height, .balance merger, operations⟩) touch = .ok m ↔
      ∃ delta, touch.2.applyTo merger.delta = some delta ∧
        m = ⟨key, height, .balance { merger with delta }, pushOperation operations touch.1⟩ := by
  subst same
  unfold mergeStep openMerger
  simp only [bind_ok, Except.ok.injEq, exists_eq_left']
  by_cases balanced : .balance = touch.2.kind
  · rw [if_pos (by exact balanced)]
    simp only [merge, mergeState, bind_ok, pure_ok, mergeBalance_exact named balanced.symm]
    constructor
    · rintro ⟨_, ⟨_, ⟨delta, applied, rfl⟩, rfl⟩, rfl⟩
      exact ⟨delta, applied, rfl⟩
    · rintro ⟨delta, applied, rfl⟩
      exact ⟨_, ⟨_, ⟨delta, applied, rfl⟩, rfl⟩, rfl⟩
  · rw [if_neg (by exact balanced)]
    simp only [throw_ok, false_iff]
    rintro ⟨delta, applied, _⟩
    exact balanced (applyTo_kind applied).symm

theorem startBalance_exact {merger : BalanceMerger} :
    (∃ existing, reader key = .ok existing ∧ startBalance key existing = .ok merger) ↔
      ∃ owner stored, StateKey.readBalance? key = some (owner, merger.currency) ∧
        Lookup.balanceByKey reader key = .ok stored ∧
        merger.committed = stored.getD Decimal.zero ∧ merger.delta = Decimal.zero := by
  unfold Lookup.balanceByKey Lookup.read
  simp only [bind_ok]
  obtain ⟨currency, committed, delta⟩ := merger
  constructor
  · rintro ⟨existing, read, started⟩
    unfold startBalance at started
    split at started
    · cases started
    · rename_i owner currency named
      split at started
      · cases started
        exact ⟨owner, none, named, ⟨none, read, rfl⟩, rfl, rfl⟩
      · rename_i state
        split at started
        · rename_i amount held
          cases started
          exact ⟨owner, some amount.value, named, ⟨some state, read, by simp [Lookup.typed, held]⟩,
            rfl, rfl⟩
        · cases started
  · rintro ⟨owner, stored, named, ⟨existing, read, typed⟩, rfl, rfl⟩
    refine ⟨existing, read, ?_⟩
    unfold startBalance
    rw [named]
    cases existing with
    | none =>
      cases typed
      rfl
    | some state =>
      unfold Lookup.typed at typed
      cases held : state.value with
      | balance amount =>
        simp only [held] at typed ⊢
        cases typed
        rfl
      | _ => simp [held] at typed

theorem openMerger_exact {value : MergeValue} {opened : Merger} :
    openMerger height reader none value = .ok opened ↔
      (value.kind = .set ∧ (∃ found, reader value.key = .ok found) ∧
        opened = ⟨value.key, height, .set ⟨none⟩, []⟩) ∨
      (value.kind = .balance ∧ ∃ merger : BalanceMerger,
        (∃ existing, reader value.key = .ok existing ∧
          startBalance value.key existing = .ok merger) ∧
        opened = ⟨value.key, height, .balance merger, []⟩) := by
  unfold openMerger start
  simp only [bind_ok]
  cases value.kind with
  | set => simp [eq_comm]
  | balance =>
    simp only [bind_ok, pure_ok, reduceCtorEq, false_and, true_and, false_or]
    constructor
    · rintro ⟨existing, read, merger, started, rfl⟩
      exact ⟨merger, ⟨existing, read, started⟩, rfl⟩
    · rintro ⟨merger, ⟨existing, read, started⟩, rfl⟩
      exact ⟨existing, read, merger, started, rfl⟩

theorem mergeStep_none :
    mergeStep height reader none touch = .ok m ↔
      ∃ opened, openMerger height reader none touch.2 = .ok opened ∧
        mergeStep height reader (some opened) touch = .ok m := by
  unfold mergeStep
  simp only [bind_ok]
  constructor
  · rintro ⟨opened, found, stepped⟩
    exact ⟨opened, found, opened, rfl, stepped⟩
  · rintro ⟨opened, found, _, same, stepped⟩
    cases same
    exact ⟨opened, found, stepped⟩

theorem mergeStep_fresh :
    mergeStep height reader (some ⟨key, height, .set ⟨none⟩, operations⟩) touch = .ok m ↔
      touch.2.kind = .set ∧
        m = ⟨key, height, .set ⟨some touch.2.value⟩, pushOperation operations touch.1⟩ := by
  unfold mergeStep openMerger
  simp only [bind_ok, Except.ok.injEq, exists_eq_left', kind]
  cases touch.2.kind with
  | balance => simp
  | set => simp [merge, mergeState, mergeSet, eq_comm]

theorem fold_set {value : StateValue} :
    touches.foldlM (Table.changeEntry (mergeStep height reader))
        (some ⟨key, height, .set ⟨some value⟩, operations⟩) = .ok entry ↔
      (∀ touch ∈ touches, touch.2.kind = .set ∧ value.agrees touch.2.value = true) ∧
        entry = some ⟨key, height, .set ⟨some value⟩, gather operations touches⟩ := by
  induction touches generalizing operations with
  | nil =>
    simp only [List.foldlM_nil, pure_ok, List.not_mem_nil, false_imp_iff, implies_true, true_and]
    exact eq_comm
  | cons touch rest ih =>
    rw [List.foldlM_cons, List.forall_mem_cons]
    simp only [bind_ok, Table.changeEntry, pure_ok, mergeStep_set]
    constructor
    · rintro ⟨_, ⟨_, ⟨here, rfl⟩, rfl⟩, later⟩
      obtain ⟨others, same⟩ := ih.mp later
      exact ⟨⟨here, others⟩, same⟩
    · rintro ⟨⟨here, others⟩, same⟩
      exact ⟨_, ⟨_, ⟨here, rfl⟩, rfl⟩, ih.mpr ⟨others, same⟩⟩

theorem fold_balance {owner : Address} (merger : BalanceMerger)
    (named : StateKey.readBalance? key = some (owner, merger.currency))
    (same : ∀ touch ∈ touches, touch.2.key = key) :
    touches.foldlM (Table.changeEntry (mergeStep height reader))
        (some ⟨key, height, .balance merger, operations⟩) = .ok entry ↔
      ∃ delta, (touches.map Prod.snd).foldlM MergeValue.applyTo merger.delta = some delta ∧
        entry = some ⟨key, height, .balance { merger with delta }, gather operations touches⟩ := by
  induction touches generalizing operations merger with
  | nil =>
    simp only [List.foldlM_nil, List.map_nil, pure_ok, Option.pure_def, Option.some.injEq,
      exists_eq_left']
    exact eq_comm
  | cons touch rest ih =>
    rw [List.forall_mem_cons] at same
    rw [List.foldlM_cons, List.map_cons, List.foldlM_cons]
    simp only [bind_ok, Table.changeEntry, pure_ok, mergeStep_balance merger named same.1,
      Option.bind_eq_bind, Option.bind_eq_some_iff]
    constructor
    · rintro ⟨_, ⟨_, ⟨next, applied, rfl⟩, rfl⟩, later⟩
      obtain ⟨delta, summed, rfl⟩ := (ih { merger with delta := next } named same.2).mp later
      exact ⟨delta, ⟨next, applied, summed⟩, rfl⟩
    · rintro ⟨delta, ⟨next, applied, summed⟩, rfl⟩
      exact ⟨_, ⟨_, ⟨next, applied, rfl⟩, rfl⟩,
        (ih { merger with delta := next } named same.2).mpr ⟨delta, summed, rfl⟩⟩

theorem fold_exact {first : Digest × MergeValue} {rest : List (Digest × MergeValue)}
    (same : ∀ touch ∈ first :: rest, touch.2.key = key) :
    (first :: rest).foldlM (Table.changeEntry (mergeStep height reader)) none = .ok entry ↔
      ((∀ touch ∈ first :: rest, touch.2.kind = .set ∧ first.2.value.agrees touch.2.value = true) ∧
        (∃ found, reader key = .ok found) ∧
        entry = some ⟨key, height, .set ⟨some first.2.value⟩, gather [] (first :: rest)⟩) ∨
      ∃ merger : BalanceMerger, merger.Sums reader key ((first :: rest).map Prod.snd) ∧
        entry = some ⟨key, height, .balance merger, gather [] (first :: rest)⟩ := by
  obtain ⟨rfl, others⟩ := List.forall_mem_cons.mp same
  rw [List.foldlM_cons]
  simp only [bind_ok, Table.changeEntry, pure_ok, mergeStep_none, openMerger_exact]
  constructor
  · rintro ⟨_, ⟨m, ⟨opened, ⟨set, readable, rfl⟩ | ⟨balanced, merger, begun, rfl⟩, stepped⟩, rfl⟩,
      later⟩
    · obtain ⟨_, rfl⟩ := mergeStep_fresh.mp stepped
      obtain ⟨agree, rfl⟩ := fold_set.mp later
      exact .inl ⟨List.forall_mem_cons.mpr ⟨⟨set, first.2.value.agrees_refl⟩, agree⟩, readable, rfl⟩
    · obtain ⟨owner, stored, named, read, committed, fresh⟩ := startBalance_exact.mp begun
      obtain ⟨next, applied, rfl⟩ := (mergeStep_balance merger named rfl).mp stepped
      obtain ⟨delta, summed, rfl⟩ :=
        (fold_balance { merger with delta := next } named others).mp later
      refine .inr ⟨{ merger with delta }, ⟨⟨owner, named⟩, ⟨stored, read, committed⟩, ?_⟩, rfl⟩
      rw [fresh] at applied
      rw [List.map_cons, List.foldlM_cons, applied]
      exact summed
  · rintro (⟨agree, readable, rfl⟩ | ⟨merger, ⟨⟨owner, named⟩, ⟨stored, read, committed⟩, summed⟩, rfl⟩)
    · obtain ⟨⟨set, _⟩, agree⟩ := List.forall_mem_cons.mp agree
      exact ⟨_, ⟨_, ⟨_, .inl ⟨set, readable, rfl⟩, mergeStep_fresh.mpr ⟨set, rfl⟩⟩, rfl⟩,
        fold_set.mpr ⟨agree, rfl⟩⟩
    · rw [List.map_cons, List.foldlM_cons, Option.bind_eq_bind, Option.bind_eq_some_iff] at summed
      obtain ⟨next, applied, summed⟩ := summed
      let opened : BalanceMerger := { merger with delta := Decimal.zero }
      have begun : ∃ existing, reader first.2.key = .ok existing ∧
          startBalance first.2.key existing = .ok opened :=
        startBalance_exact.mpr ⟨owner, stored, named, read, committed, rfl⟩
      exact ⟨_, ⟨_, ⟨_, .inr ⟨applyTo_kind applied, opened, begun, rfl⟩,
        (mergeStep_balance opened named rfl).mpr ⟨next, applied, rfl⟩⟩, rfl⟩,
        (fold_balance { opened with delta := next } named others).mpr
          ⟨merger.delta, summed, rfl⟩⟩

theorem close_set {value : StateValue} {state : State} :
    (⟨key, height, .set ⟨some value⟩, operations⟩ : Merger).close = .ok state ↔
      state = ⟨key, height, value, operations⟩ := by
  have closed : (⟨key, height, .set ⟨some value⟩, operations⟩ : Merger).close =
      .ok ⟨key, height, value, operations⟩ := rfl
  rw [closed, Except.ok.injEq]
  exact eq_comm

theorem close_balance {merger : BalanceMerger} {state : State} :
    (⟨key, height, .balance merger, operations⟩ : Merger).close = .ok state ↔
      ∃ total, merger.committed.add? merger.delta = some total ∧ total.isNegative = false ∧
        state = ⟨key, height, .balance ⟨merger.currency, total⟩, operations⟩ := by
  constructor
  · intro closed
    obtain ⟨rfl, rfl, rfl, closing⟩ := close_ok closed
    obtain ⟨total, added, nonneg, value⟩ := closeBalance_ok closing
    exact ⟨total, added, nonneg, by rw [← value]⟩
  · rintro ⟨total, added, nonneg, rfl⟩
    have closed : closeBalance key merger = .ok (.balance ⟨merger.currency, total⟩) := by
      rw [closeBalance, added]
      simp [nonneg]
    unfold close closeValue
    dsimp only
    rw [closed]
    rfl

theorem applyTo_kinds {values : List MergeValue} {a b : Decimal}
    (summed : values.foldlM MergeValue.applyTo a = some b) : ∀ value ∈ values, value.kind = .balance := by
  induction values generalizing a with
  | nil => simp
  | cons value rest ih =>
    rw [List.foldlM_cons, Option.bind_eq_bind, Option.bind_eq_some_iff] at summed
    obtain ⟨next, applied, later⟩ := summed
    exact List.forall_mem_cons.mpr ⟨applyTo_kind applied, ih later⟩

theorem fold_settled (touched : touches ≠ []) (same : ∀ touch ∈ touches, touch.2.key = key)
    {state : State} :
    (∃ m, touches.foldlM (Table.changeEntry (mergeStep height reader)) none = .ok (some m) ∧
      m.close = .ok state) ↔
      ∃ value, Settled reader key (touches.map Prod.snd) value ∧
        state = ⟨key, height, value, gather [] touches⟩ := by
  obtain ⟨first, rest, rfl⟩ := List.exists_cons_of_ne_nil touched
  simp only [fold_exact same]
  constructor
  · rintro ⟨m, ⟨agree, readable, opened⟩ | ⟨merger, sums, opened⟩, closed⟩
    · cases opened
      refine ⟨_, .set ?_ rfl ?_ readable, close_set.mp closed⟩
      · exact List.forall_mem_map.mpr fun touch member => (agree touch member).1
      · exact List.forall_mem_map.mpr fun touch member => (agree touch member).2
    · cases opened
      obtain ⟨⟨owner, named⟩, ⟨stored, read, committed⟩, summed⟩ := sums
      obtain ⟨total, added, nonneg, rfl⟩ := close_balance.mp closed
      rw [committed] at added
      exact ⟨_, .balance (by simp) (applyTo_kinds summed) named read summed added nonneg, rfl⟩
  · rintro ⟨value, settled, rfl⟩
    cases settled with
    | set kinds head agree readable =>
      cases head
      refine ⟨_, .inl ⟨fun touch member => ?_, readable, rfl⟩, close_set.mpr rfl⟩
      exact ⟨kinds _ (List.mem_map_of_mem member), agree _ (List.mem_map_of_mem member)⟩
    | balance _ kinds named read summed added nonneg =>
      refine ⟨_, .inr ⟨⟨_, _, _⟩, ⟨⟨_, named⟩, ⟨_, read, rfl⟩, summed⟩, rfl⟩, ?_⟩
      exact close_balance.mpr ⟨_, added, nonneg, rfl⟩

end Merger

def touchesAt (key : String) (batches : List Batch) : List (Digest × MergeValue) :=
  (touches batches).filter fun touch => touch.2.key = key

section Block
variable {height : Height} {reader : Reader} {batches : List Batch} {states : List State}

theorem touchesAt_key {key : String} : ∀ touch ∈ touchesAt key batches, touch.2.key = key :=
  fun _ member => by simpa using (List.mem_filter.mp member).2

theorem touchesAt_ne_nil {key : String} :
    touchesAt key batches ≠ [] ↔ valuesAt key batches ≠ [] := by
  rw [← touches_at, ← touchesAt, Ne, Ne, List.map_eq_nil_iff]

theorem fold_of_untouched {key : String} (untouched : valuesAt key batches = []) :
    touchesAt key batches = [] := by
  rwa [← not_not (a := touchesAt key batches = []), ← Ne, touchesAt_ne_nil, Ne, not_not]

-- A block is written when every key that it touches is settled.
theorem applyMerges_writes :
    (∃ states, applyMerges height batches reader = .ok states) ↔
      ∀ key, valuesAt key batches ≠ [] →
        ∃ value, Settled reader key (valuesAt key batches) value := by
  constructor
  · rintro ⟨states, written⟩ key touched
    obtain ⟨entry, folded, after, ⟨rfl, _⟩ | ⟨m, state, rfl, closed, _⟩⟩ :=
      applyMerges_entry written Store.empty key
    · exact absurd after touched
    · obtain ⟨value, settled, _⟩ :=
        (Merger.fold_settled (touchesAt_ne_nil.mpr touched) touchesAt_key).mp ⟨m, folded, closed⟩
      rw [touchesAt, touches_at] at settled
      exact ⟨value, settled⟩
  · intro settles
    -- The fold works key by key: it goes through as soon as it does at each key by itself.
    have each (key : String) (touched : valuesAt key batches ≠ []) :
        ∃ m state, (touchesAt key batches).foldlM (Table.changeEntry (mergeStep height reader)) none =
          .ok (some m) ∧ m.close = .ok state := by
      obtain ⟨value, settled⟩ := settles key touched
      rw [← touches_at, ← touchesAt] at settled
      obtain ⟨m, written⟩ := (Merger.fold_settled (touchesAt_ne_nil.mpr touched) touchesAt_key).mpr
        ⟨value, settled, (rfl : (⟨key, height, value, _⟩ : State) = _)⟩
      exact ⟨m, _, written⟩
    obtain ⟨mergers, merged⟩ : ∃ mergers : Mergers,
        (touches batches).foldlM (mergeInto height reader) [] = .ok mergers := by
      rw [mergeInto_update, Table.foldlM_succeeds]
      intro key
      by_cases touched : valuesAt key batches = []
      · have untouched := fold_of_untouched touched
        unfold touchesAt at untouched
        rw [untouched]
        exact ⟨none, rfl⟩
      · obtain ⟨m, _, folded, _⟩ := each key touched
        exact ⟨some m, folded⟩
    obtain ⟨states, closed⟩ : ∃ states, mergers.mapM (fun entry => entry.2.close) = .ok states := by
      rw [mapM_succeeds]
      rintro ⟨key, m⟩ member
      have of := mergers_of merged
      have found := Table.find_of_mem of.ascending member
      obtain ⟨m', state, folded, closed⟩ := each key (of.after_of_mem member).1
      rw [mergeInto_update] at merged
      have same := (Table.foldlM_find merged key).symm.trans folded
      rw [found] at same
      cases same
      exact ⟨state, closed⟩
    refine ⟨states, ?_⟩
    unfold applyMerges
    rw [merged]
    exact closed

theorem applyMerges_at (written : applyMerges height batches reader = .ok states) {key : String}
    (touched : valuesAt key batches ≠ []) :
    ∃ value, Settled reader key (valuesAt key batches) value ∧
      ⟨key, height, value, gather [] (touchesAt key batches)⟩ ∈ states := by
  obtain ⟨entry, folded, after, ⟨rfl, _⟩ | ⟨m, state, rfl, closed, found⟩⟩ :=
    applyMerges_entry written Store.empty key
  · exact absurd after touched
  · obtain ⟨value, settled, rfl⟩ :=
      (Merger.fold_settled (touchesAt_ne_nil.mpr touched) touchesAt_key).mp ⟨m, folded, closed⟩
    rw [touchesAt, touches_at] at settled
    refine ⟨value, settled, ?_⟩
    by_contra missing
    have apart : ∀ other ∈ states, other.key ≠ key := by
      intro other member same
      have stored := Store.find_extend_of_mem Store.empty (applyMerges_distinct written) member
      rw [same, found] at stored
      exact missing (Option.some.inj stored ▸ member)
    rw [Store.find_extend_of_missing _ apart] at found
    cases found

-- The states that are written: one for each key that is touched, with its settled value
-- and the operations that touch it.
theorem applyMerges_states (written : applyMerges height batches reader = .ok states)
    {state : State} :
    state ∈ states ↔ valuesAt state.key batches ≠ [] ∧ state.height = height ∧
      Settled reader state.key (valuesAt state.key batches) state.value ∧
      state.operations = gather [] (touchesAt state.key batches) := by
  constructor
  · intro member
    have stored := Store.find_extend_of_mem Store.empty (applyMerges_distinct written) member
    rcases applyMerges_find written Store.empty state.key with
      ⟨_, same⟩ | ⟨_, _, touched, _⟩
    · rw [stored] at same
      cases same
    · obtain ⟨value, settled, listed⟩ := applyMerges_at written touched
      have again := Store.find_extend_of_mem Store.empty (applyMerges_distinct written) listed
      have same := Option.some.inj (stored.symm.trans again)
      rw [same]
      exact ⟨touched, rfl, settled, rfl⟩
  · rintro ⟨touched, height, settled, operations⟩
    obtain ⟨value, settled', listed⟩ := applyMerges_at written touched
    rw [settled'.unique settled, ← height, ← operations] at listed
    exact listed

theorem applyMerges_keys (written : applyMerges height batches reader = .ok states) {key : String} :
    key ∈ states.map State.key ↔ valuesAt key batches ≠ [] := by
  constructor
  · intro member
    obtain ⟨state, listed, rfl⟩ := List.mem_map.mp member
    exact ((applyMerges_states written).mp listed).1
  · intro touched
    obtain ⟨value, _, listed⟩ := applyMerges_at written touched
    exact List.mem_map_of_mem listed

end Block
end SignedLedger

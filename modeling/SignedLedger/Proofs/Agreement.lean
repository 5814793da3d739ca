import SignedLedger.Proofs.Sample
import SignedLedger.Proofs.State.Closing

-- The check of one operation and the merger agree. The check sums up negated amounts in
-- one table, the merger adds and subtracts key by key; both come to the same sums and
-- have room for the same sums, so what passes the check can be written, and nothing else.
namespace SignedLedger
open Check

structure Checkable (values : List MergeValue) : Prop where
  apart : ∀ key value, .set key value ∈ values → StateKey.isBalance key = false
  agree : ∀ key value other, .set key value ∈ values → .set key other ∈ values →
    value.agrees other = true

theorem Checkable.kinds {values : List MergeValue} (checkable : Checkable values)
    {value : MergeValue} (member : value ∈ values)
    (named : StateKey.isBalance value.key = true) : value.kind = .balance := by
  cases value with
  | set key value => cases named.symm.trans (checkable.apart key value member)
  | credit _ _ => rfl
  | debit _ _ => rfl

theorem MergeValue.set_of_key {value : MergeValue}
    (other : StateKey.isBalance value.key = false) : value.kind = .set := by
  cases value with
  | set _ _ => rfl
  | credit a amount => cases other.symm.trans (StateKey.isBalance_balance a amount.currency)
  | debit a amount => cases other.symm.trans (StateKey.isBalance_balance a amount.currency)

theorem valuesAt_single (key : String) (operation : Digest) (values : List MergeValue) :
    valuesAt key [(operation, values)] = under key values := by
  simp [valuesAt, under]

section Deltas
variable {values : List MergeValue} {key : String}

theorem changeDelta_total {value : MergeValue} (balanced : value.kind = .balance)
    (entry : Option Decimal) :
    (changeDelta entry value).toOption.map Decimal.units =
      Decimal.total? ((entry.getD Decimal.zero).units + value.units) := by
  cases value with
  | set _ _ => cases balanced
  | credit a amount =>
    rw [changeDelta_added rfl]
    exact Decimal.add_total _ amount.value
  | debit a amount =>
    rw [changeDelta_added rfl, MergeValue.units, ← Decimal.units_neg]
    exact Decimal.add_total _ amount.value.neg

theorem changeDelta_running (kinds : ∀ value ∈ values, value.kind = .balance)
    (entry : Option Decimal) :
    (values.foldlM (Table.changeEntry changeDelta) entry).toOption.map
        (fun found => (found.getD Decimal.zero).units) =
      Decimal.running? (entry.getD Decimal.zero).units (values.map MergeValue.units) := by
  induction values generalizing entry with
  | nil => rfl
  | cons value rest ih =>
    have total := changeDelta_total (kinds value List.mem_cons_self) entry
    rw [List.foldlM_cons, List.map_cons, Decimal.running?, List.foldlM_cons, ← total]
    unfold Table.changeEntry
    cases changeDelta entry value with
    | error fault => rfl
    | ok delta => exact ih (fun other member => kinds other (List.mem_cons_of_mem _ member)) (some delta)

theorem Checkable.under_kinds (checkable : Checkable values)
    (named : StateKey.isBalance key = true) : ∀ value ∈ under key values, value.kind = .balance := by
  intro value member
  obtain ⟨within, rfl⟩ := mem_under.mp member
  exact checkable.kinds within named

theorem balanceDeltas_succeeds (checkable : Checkable values) :
    (∃ deltas, balanceDeltas values = .ok deltas) ↔ ∀ key, StateKey.isBalance key = true →
      ∃ delta, Decimal.running? 0 ((under key values).map MergeValue.units) = some delta := by
  unfold balanceDeltas
  simp only [balanceDeltas_update, Table.foldlM_succeeds, Table.find_nil, filter_balance_key]
  refine forall_congr' fun key => ?_
  by_cases named : StateKey.isBalance key = true
  · have running := changeDelta_running (checkable.under_kinds named) none
    rw [Option.getD_none, Decimal.units_zero] at running
    rw [if_pos named, ← running]
    cases (under key values).foldlM (Table.changeEntry changeDelta) none with
    | error fault => simp [named, Except.toOption]
    | ok entry => simp [named, Except.toOption]
  · rw [if_neg named]
    exact iff_of_true ⟨none, rfl⟩ fun is => absurd is named

theorem balanceDeltas_find {deltas : Deltas} (checkable : Checkable values)
    (summed : balanceDeltas values = .ok deltas) {key : String} {delta : Decimal}
    (found : deltas.find? key = some delta) :
    StateKey.isBalance key = true ∧ under key values ≠ [] ∧
      Decimal.running? 0 ((under key values).map MergeValue.units) = some delta.units := by
  have folded := balanceDeltas_fold summed key
  rw [found] at folded
  by_cases named : StateKey.isBalance key = true
  · have running := changeDelta_running (checkable.under_kinds named) none
    rw [if_pos named] at folded
    rw [folded, Option.getD_none, Decimal.units_zero] at running
    refine ⟨named, fun untouched => ?_, running.symm⟩
    rw [untouched] at folded
    cases folded
  · rw [if_neg named] at folded
    cases folded

theorem balanceDeltas_touched {deltas : Deltas} (checkable : Checkable values)
    (summed : balanceDeltas values = .ok deltas) {key : String}
    (named : StateKey.isBalance key = true) (touched : under key values ≠ []) :
    ∃ delta, deltas.find? key = some delta := by
  have folded := balanceDeltas_fold summed key
  rw [if_pos named] at folded
  exact Option.isSome_iff_exists.mp
    ((changeDelta_sums (checkable.under_kinds named) folded).2 touched)

end Deltas

section Check
variable {reader : Reader} {values : List MergeValue}

-- The check passes when the balance of every key that is touched closes.
theorem checkBalances_closing (checkable : Checkable values) :
    checkBalances reader values = .ok () ↔ ∀ key, StateKey.isBalance key = true →
      under key values ≠ [] → ∃ stored x, Lookup.balanceByKey reader key = .ok stored ∧
        closing? (stored.getD Decimal.zero).units (under key values) = some x := by
  unfold checkBalances
  simp only [bind_ok, lift_ok]
  constructor
  · rintro ⟨deltas, summed, each⟩ key named touched
    obtain ⟨delta, found⟩ := balanceDeltas_touched checkable summed named touched
    obtain ⟨_, _, running⟩ := balanceDeltas_find checkable summed found
    obtain ⟨resulting, _, result, nonneg⟩ :=
      checkDelta_ok.mp (forM_ok.mp each (key, delta) (Table.find_mem found))
    obtain ⟨stored, read, rfl, added⟩ := resultingBalance_ok.mp result
    refine ⟨stored, resulting.units, read, closing_some.mpr ⟨_, running, ?_, ?_⟩⟩
    · rw [← Decimal.add_total, added, Option.map_some]
    · exact Decimal.not_isNegative_iff.mp nonneg
  · intro closes
    obtain ⟨deltas, summed⟩ := (balanceDeltas_succeeds checkable).mpr fun key named => by
      by_cases touched : under key values = []
      · exact ⟨0, by rw [touched]; rfl⟩
      · obtain ⟨_, _, _, closed⟩ := closes key named touched
        obtain ⟨delta, running, _⟩ := closing_some.mp closed
        exact ⟨delta, running⟩
    refine ⟨deltas, summed, forM_ok.mpr ?_⟩
    rintro ⟨key, delta⟩ member
    obtain ⟨named, touched, running⟩ := balanceDeltas_find checkable summed
      (Table.find_of_mem (balanceDeltas_ascending summed) member)
    obtain ⟨stored, x, read, closed⟩ := closes key named touched
    obtain ⟨units, again, total, nonneg⟩ := closing_some.mp closed
    cases running.symm.trans again
    rw [← Decimal.add_total] at total
    obtain ⟨resulting, added, rfl⟩ := Option.map_eq_some_iff.mp total
    exact checkDelta_ok.mpr ⟨resulting, _, resultingBalance_ok.mpr ⟨stored, read, rfl, added⟩,
      Decimal.not_isNegative_iff.mpr nonneg⟩

theorem Checkable.settled_other (checkable : Checkable values) {key : String}
    (readable : ∃ found, reader key = .ok found) (other : StateKey.isBalance key = false)
    (touched : under key values ≠ []) : ∃ value, Settled reader key (under key values) value := by
  obtain ⟨first, rest, split⟩ := List.exists_cons_of_ne_nil touched
  have sets : ∀ value ∈ under key values, .set key value.value ∈ values ∧ value.kind = .set := by
    intro value member
    obtain ⟨within, rfl⟩ := mem_under.mp member
    have set := MergeValue.set_of_key other
    rw [MergeValue.set_of_kind set] at within
    exact ⟨within, set⟩
  have member : first ∈ under key values := split ▸ List.mem_cons_self
  exact ⟨first.value, .set (fun value within => (sets value within).2) (by rw [split]; rfl)
    (fun value within => checkable.agree key _ _ (sets first member).1 (sets value within).1)
    readable⟩

-- The values can be written when the balance of every key that is touched closes.
theorem applyMerges_closing (readable : ∀ key, ∃ found, reader key = .ok found)
    (checkable : Checkable values) (height : Height) (operation : Digest) :
    (∃ states, applyMerges height [(operation, values)] reader = .ok states) ↔
      ∀ key, StateKey.isBalance key = true → under key values ≠ [] →
        ∃ stored x, Lookup.balanceByKey reader key = .ok stored ∧
          closing? (stored.getD Decimal.zero).units (under key values) = some x := by
  simp only [applyMerges_writes, valuesAt_single]
  constructor
  · intro settles key named touched
    obtain ⟨value, settled⟩ := settles key touched
    obtain ⟨stored, amount, read, _, closed⟩ := settled.closes touched
      (checkable.under_kinds named) under_key
    exact ⟨stored, _, read, closed⟩
  · intro closes key touched
    by_cases named : StateKey.isBalance key = true
    · obtain ⟨stored, x, read, closed⟩ := closes key named touched
      obtain ⟨amount, settled, _⟩ := (settled_closing touched (checkable.under_kinds named)
        under_key read).mp closed
      exact ⟨_, settled⟩
    · exact checkable.settled_other (readable key) (by simpa using named) touched

end Check

-- Over a reader that never fails, an operation passes the check exactly when its values
-- can be written. What is then written under each balance key is the balance that the
-- check has worked out for it, and it is not below zero.
theorem check_agrees_with_merger {reader : Reader}
    (readable : ∀ key, ∃ found, reader key = .ok found) {values : List MergeValue}
    (checkable : Checkable values) (height : Height) (operation : Digest) :
    (checkBalances reader values = .ok () ↔
      ∃ states, applyMerges height [(operation, values)] reader = .ok states) ∧
    ∀ states, applyMerges height [(operation, values)] reader = .ok states →
      ∃ deltas, balanceDeltas values = .ok deltas ∧
        (∀ state ∈ states, StateKey.isBalance state.key = true →
          ∃ delta, deltas.find? state.key = some delta) ∧
        ∀ key delta, deltas.find? key = some delta →
          ∃ resulting committed amount, resultingBalance reader key delta = .ok (resulting, committed) ∧
            (∃ state ∈ states, state.key = key ∧ state.value = .balance amount) ∧
            amount.value.Same resulting ∧ amount.value.isNegative = false := by
  have agree : checkBalances reader values = .ok () ↔ _ :=
    (checkBalances_closing checkable).trans
      (applyMerges_closing readable checkable height operation).symm
  refine ⟨agree, fun states written => ?_⟩
  have checked := agree.mpr ⟨states, written⟩
  unfold checkBalances at checked
  simp only [bind_ok, lift_ok] at checked
  obtain ⟨deltas, summed, each⟩ := checked
  refine ⟨deltas, summed, fun state member named => ?_, fun key delta found => ?_⟩
  · have touched := ((applyMerges_states written).mp member).1
    rw [valuesAt_single] at touched
    exact balanceDeltas_touched checkable summed named touched
  -- Check and merger each add up the same changes and put them to the same stored balance.
  · obtain ⟨resulting, committed, result, nonneg⟩ :=
      checkDelta_ok.mp (forM_ok.mp each (key, delta) (Table.find_mem found))
    obtain ⟨stored, read, rfl, added⟩ := resultingBalance_ok.mp result
    obtain ⟨named, touched, running⟩ := balanceDeltas_find checkable summed found
    rw [← valuesAt_single key operation] at touched
    obtain ⟨value, settled, listed⟩ := applyMerges_at written touched
    rw [valuesAt_single] at settled touched
    obtain ⟨amount, rfl, closed⟩ := settled.closes_from touched (checkable.under_kinds named)
      under_key read
    obtain ⟨units, running', total, _⟩ := closing_some.mp closed
    cases running.symm.trans running'
    rw [← Decimal.add_total, added, Option.map_some, Option.some.injEq] at total
    refine ⟨resulting, _, amount, result, ⟨_, listed, rfl, rfl⟩, ?_, ?_⟩
    · exact Decimal.same_iff_units.mpr total.symm
    · rw [Decimal.not_isNegative_iff, ← total]
      exact Decimal.not_isNegative_iff.mp nonneg

namespace Sample

def crowded : List MergeValue :=
  [.credit bob (amount 79228162514264337593543950335 1),
    .set (StateKey.account carol) (.account (Account.keyless carol)),
    .credit bob (amount 4 2), .set (StateKey.account carol) (.account (Account.keyless carol))]

end Sample

set_option maxRecDepth 100000 in
theorem check_agrees_where_rounded :
    checkBalances Sample.plainLedger.reader Sample.crowded = .ok () ∧
      ∃ states, applyMerges ⟨2⟩ [(Digest.of [], Sample.crowded)] Sample.plainLedger.reader =
        .ok states := by
  have checkable : Checkable Sample.crowded := by
    constructor
    · intro key value listed
      simp only [Sample.crowded, List.mem_cons, MergeValue.set.injEq, reduceCtorEq, List.not_mem_nil,
        false_or, or_false, or_self] at listed
      rw [listed.1]
      decide +kernel
    · intro key value other listed listed'
      simp only [Sample.crowded, List.mem_cons, MergeValue.set.injEq, reduceCtorEq, List.not_mem_nil,
        false_or, or_false, or_self] at listed listed'
      rw [listed.2, listed'.2]
      exact StateValue.agrees_refl _
  have checked : checkBalances Sample.plainLedger.reader Sample.crowded = .ok () := by
    decide +kernel
  exact ⟨checked, (check_agrees_with_merger (fun key => ⟨_, rfl⟩) checkable ⟨2⟩
    (Digest.of [])).1.mp checked⟩

end SignedLedger

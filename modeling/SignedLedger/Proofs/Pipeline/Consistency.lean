import SignedLedger.Pipeline.Consistency
import SignedLedger.Proofs.Decimal.Fold
import SignedLedger.Proofs.State.Merge

namespace SignedLedger
open Check

def MergeValue.units : MergeValue → Int
  | .credit _ amount => amount.value.units
  | .debit _ amount => -amount.value.units
  | .set _ _ => 0

theorem applyTo_rounds {a next : Decimal} {value : MergeValue}
    (stepped : value.applyTo a = some next) :
    Decimal.Rounds (a.units + value.units) next.units := by
  cases value with
  | set _ _ => cases stepped
  | credit _ amount => exact Decimal.add_rounds stepped
  | debit _ amount =>
    rw [MergeValue.units, ← Int.sub_eq_add_neg]
    exact Decimal.sub_rounds stepped

theorem applyTo_sums {values : List MergeValue} {a b : Decimal}
    (summed : values.foldlM MergeValue.applyTo a = some b) :
    Decimal.SumsTo a (values.map MergeValue.units) b := by
  have rounds (a : Decimal) (value : MergeValue) (next : Decimal)
      (stepped : value.applyTo a = some next) : Decimal.Rounds (a.units + value.units) next.units :=
    applyTo_rounds stepped
  exact .of_foldlM rounds summed

theorem signedChange_units {value : MergeValue} {change : Decimal} (balanced : value.kind = .balance)
    (signed : signedChange value.value = .ok change) : change.units = value.units := by
  cases value with
  | set _ _ => cases balanced
  | credit _ amount =>
    cases signed
    rfl
  | debit _ amount =>
    cases signed
    exact Decimal.units_neg _

def changeDelta (entry : Option Decimal) (value : MergeValue) : Except Fault Decimal := do
  let change ← signedChange value.value
  match (entry.getD Decimal.zero).add? change with
  | some delta => return delta
  | none => throw (.arithmetic (.balanceDelta value.key))

theorem changeDelta_added {value : MergeValue} {change : Decimal}
    (signed : signedChange value.value = .ok change) (entry : Option Decimal) :
    (changeDelta entry value).toOption = (entry.getD Decimal.zero).add? change := by
  unfold changeDelta
  rw [signed]
  simp only [bind, Except.bind]
  cases (entry.getD Decimal.zero).add? change with
  | none => rfl
  | some delta => rfl

theorem addDelta_update (deltas : Deltas) (value : MergeValue) :
    addDelta deltas value =
      if StateKey.isBalance value.key then Table.update MergeValue.key changeDelta deltas value
      else .ok deltas := by
  unfold addDelta Table.update changeDelta
  split
  · cases signedChange value.value with
    | error fault => rfl
    | ok change =>
      simp only [bind, Except.bind]
      cases ((deltas.find? value.key).getD Decimal.zero).add? change with
      | none => rfl
      | some delta => rfl
  · rfl

theorem balanceDeltas_update (values : List MergeValue) (start : Deltas) :
    values.foldlM addDelta start =
      (values.filter fun value => StateKey.isBalance value.key).foldlM
        (Table.update MergeValue.key changeDelta) start := by
  induction values generalizing start with
  | nil => rfl
  | cons value rest ih =>
    rw [List.foldlM_cons, addDelta_update]
    by_cases balanced : StateKey.isBalance value.key = true
    · rw [if_pos balanced, List.filter_cons, if_pos balanced, List.foldlM_cons]
      exact congrArg _ (funext ih)
    · rw [if_neg balanced, List.filter_cons, if_neg balanced]
      exact ih start

def under (key : String) (values : List MergeValue) : List MergeValue :=
  values.filter fun value => value.key = key

theorem mem_under {key : String} {values : List MergeValue} {value : MergeValue} :
    value ∈ under key values ↔ value ∈ values ∧ value.key = key := by
  simp [under]

theorem under_key {key : String} {values : List MergeValue} :
    ∀ value ∈ under key values, value.key = key :=
  fun _ member => (mem_under.mp member).2

theorem filter_balance_key (key : String) (values : List MergeValue) :
    ((values.filter fun value => StateKey.isBalance value.key).filter fun value => value.key = key) =
      if StateKey.isBalance key then under key values else [] := by
  rw [List.filter_filter]
  split
  · rename_i named
    refine List.filter_congr fun value _ => ?_
    by_cases same : value.key = key
    · simp [same, named]
    · simp [same]
  · rename_i other
    refine List.filter_eq_nil_iff.mpr fun value _ both => ?_
    obtain ⟨same, named⟩ := (Bool.and_eq_true _ _).mp both
    exact other (of_decide_eq_true same ▸ named)

-- The entry of a key is the fold of the changes under it, and there is none under a key
-- that is not a balance key.
theorem balanceDeltas_fold {values : List MergeValue} {deltas : Deltas}
    (summed : balanceDeltas values = .ok deltas) (key : String) :
    (if StateKey.isBalance key then under key values else []).foldlM
      (Table.changeEntry changeDelta) none = .ok (deltas.find? key) := by
  unfold balanceDeltas at summed
  rw [balanceDeltas_update] at summed
  have folded := Table.foldlM_find summed key
  rwa [Table.find_nil, filter_balance_key] at folded

theorem balanceDeltas_ascending {values : List MergeValue} {deltas : Deltas}
    (summed : balanceDeltas values = .ok deltas) : Table.Ascending deltas := by
  unfold balanceDeltas at summed
  rw [balanceDeltas_update] at summed
  exact Table.foldlM_ascending .nil summed

theorem changeDelta_sums {values : List MergeValue} {entry result : Option Decimal}
    (kinds : ∀ value ∈ values, value.kind = .balance)
    (summed : values.foldlM (Table.changeEntry changeDelta) entry = .ok result) :
    Decimal.SumsTo (entry.getD Decimal.zero) (values.map MergeValue.units)
      (result.getD Decimal.zero) ∧ (values ≠ [] → result.isSome = true) := by
  induction values generalizing entry with
  | nil =>
    cases summed
    exact ⟨.nil _, fun inhabited => absurd rfl inhabited⟩
  | cons value rest ih =>
    rw [List.foldlM_cons, bind_ok] at summed
    obtain ⟨next, stepped, later⟩ := summed
    unfold Table.changeEntry changeDelta at stepped
    simp only [bind_ok, pure_ok] at stepped
    obtain ⟨delta, ⟨change, signed, added⟩, rfl⟩ := stepped
    have own := signedChange_units (kinds value List.mem_cons_self) signed
    cases sum : (entry.getD Decimal.zero).add? change with
    | none => simp [sum] at added
    | some reached =>
      simp only [sum, pure_ok] at added
      subst added
      obtain ⟨tail, some⟩ := ih (fun other member => kinds other (List.mem_cons_of_mem _ member)) later
      have rounded := Decimal.add_rounds sum
      rw [own] at rounded
      refine ⟨.cons rounded tail, fun _ => ?_⟩
      cases rest with
      | nil =>
        cases later
        rfl
      | cons _ _ => exact some (by simp)

theorem resultingBalance_ok {reader : Reader} {key : String}
    {delta resulting committed : Decimal} :
    resultingBalance reader key delta = .ok (resulting, committed) ↔
      ∃ stored, Lookup.balanceByKey reader key = .ok stored ∧ stored.getD Decimal.zero = committed ∧
        committed.add? delta = some resulting := by
  unfold resultingBalance
  simp only [bind_ok]
  refine exists_congr fun stored => and_congr_right fun _ => ?_
  cases sum : (stored.getD Decimal.zero).add? delta with
  | none =>
    simp only [throw_ok, false_iff]
    rintro ⟨rfl, added⟩
    rw [sum] at added
    cases added
  | some total =>
    simp only [pure_ok, Prod.mk.injEq]
    constructor
    · rintro ⟨rfl, rfl⟩
      exact ⟨rfl, sum⟩
    · rintro ⟨rfl, added⟩
      exact ⟨Option.some.inj (sum.symm.trans added), rfl⟩

theorem checkDelta_ok {reader : Reader} {key : String} {delta : Decimal} :
    checkDelta reader (key, delta) = .ok () ↔
      ∃ resulting committed, resultingBalance reader key delta = .ok (resulting, committed) ∧
        resulting.isNegative = false := by
  unfold checkDelta
  simp only [bind_ok, lift_ok, Prod.exists]
  refine exists_congr fun resulting => exists_congr fun committed => and_congr_right fun _ => ?_
  cases resulting.isNegative with
  | false => simp
  | true =>
    cases StateKey.readBalance? key with
    | none => simp
    | some owner => simp

-- An operation that passes the check leaves what it changes at or above zero.
theorem checkBalances_sums {reader : Reader} {values : List MergeValue} {key : String}
    (checked : checkBalances reader values = .ok ()) (named : StateKey.isBalance key = true)
    (kinds : ∀ value ∈ values, value.key = key → value.kind = .balance)
    (touched : ∃ value ∈ values, value.key = key) :
    ∃ delta stored resulting,
      Decimal.SumsTo Decimal.zero ((values.filter fun value => value.key = key).map MergeValue.units)
        delta ∧
      Lookup.balanceByKey reader key = .ok stored ∧
      (stored.getD Decimal.zero).add? delta = some resulting ∧ 0 ≤ resulting.units := by
  unfold checkBalances at checked
  simp only [bind_ok, lift_ok] at checked
  obtain ⟨deltas, summed, each⟩ := checked
  have folded := balanceDeltas_fold summed key
  rw [if_pos named, under] at folded
  obtain ⟨sums, some⟩ := changeDelta_sums (fun value member => by
    obtain ⟨within, equal⟩ := List.mem_filter.mp member
    exact kinds value within (by simpa using equal)) folded
  obtain ⟨value, within, equal⟩ := touched
  have inhabited : (values.filter fun value => value.key = key) ≠ [] :=
    List.ne_nil_of_mem (List.mem_filter.mpr ⟨within, by simpa using equal⟩)
  obtain ⟨delta, found⟩ := Option.isSome_iff_exists.mp (some inhabited)
  rw [found] at sums
  obtain ⟨resulting, _, result, kept⟩ :=
    checkDelta_ok.mp (forM_ok.mp each (key, delta) (Table.find_mem found))
  obtain ⟨stored, read, rfl, added⟩ := resultingBalance_ok.mp result
  exact ⟨delta, stored, resulting, sums, read, added, Decimal.not_isNegative_iff.mp kept⟩

end SignedLedger

import Mathlib.Tactic.Linarith
import SignedLedger.Proofs.Decimal.Total
import SignedLedger.Proofs.Pipeline.Failure
import SignedLedger.Proofs.Sample

-- How much a valid policy takes. Every single fee lies between the bounds of its rule,
-- and the sum of them between the sums of the bounds, except for what is rounded while
-- they are added up.
namespace SignedLedger
open Check

inductive Decimal.Unrounded : Decimal → List Decimal → Prop where
  | nil (a : Decimal) : Unrounded a []
  | cons {a b sum : Decimal} {rest : List Decimal} (added : a.add? b = some sum)
      (exact : sum.value = a.value + b.value) (later : Unrounded sum rest) :
      Unrounded a (b :: rest)

namespace Decimal.Unrounded
variable {a : Decimal} {numbers : List Decimal}

theorem accumulated_eq_zero (unrounded : Unrounded a numbers) :
    accumulated add? value a numbers = 0 := by
  induction unrounded with
  | nil a => rfl
  | cons added exact later ih =>
    rw [accumulated, added]
    dsimp only
    rw [ih, exact, sub_self, add_zero]

theorem of_room {s : Nat} (start : (tenTo (maxScale - s) : Int) ∣ a.units)
    (scaled : ∀ b ∈ numbers, b.scale ≤ s)
    (room : a.units.natAbs + (numbers.map fun b => b.units.natAbs).sum <
      coeffBound * tenTo (maxScale - s)) : Unrounded a numbers := by
  induction numbers generalizing a with
  | nil => exact .nil a
  | cons b rest ih =>
    rw [List.map_cons, List.sum_cons] at room
    have whole := Int.dvd_add start (units_whole (scaled b List.mem_cons_self))
    have smaller := Int.natAbs_add_le a.units b.units
    have total := add_total a b
    rw [total_exact (Nat.sub_le _ _) whole (by omega), Option.map_eq_some_iff] at total
    obtain ⟨sum, added, same⟩ := total
    refine .cons added ?_ (ih (same ▸ whole)
      (fun other member => scaled other (List.mem_cons_of_mem _ member)) (by rw [same]; omega))
    rw [value_eq_units, value_eq_units, value_eq_units, same, Int.cast_add, add_div]

theorem of_fits {s : Nat} (fits : Fits s numbers) : Unrounded zero numbers := by
  refine of_room (units_zero ▸ Int.dvd_zero _) fits.1 ?_
  rw [units_zero, Int.natAbs_zero, Nat.zero_add]
  exact fits.2

end Decimal.Unrounded

namespace CurrencyPolicy
variable {policy : CurrencyPolicy} {items singles each : List Decimal} {fee : Decimal}

def lowest (policy : CurrencyPolicy) (n : Nat) : ℚ :=
  policy.fee.lowest.value + n * (policy.itemFee.elim 0 fun rule => rule.lowest.value)

def highest (policy : CurrencyPolicy) (n : Nat) : ℚ :=
  policy.fee.highest.value + n * (policy.itemFee.elim 0 fun rule => rule.highest.value)

theorem charges_within {rule : FeeRule} (valid : rule.validate = .ok ())
    (charged : items.mapM rule.charge = .ok each) :
    items.length * rule.lowest.value ≤ (each.map Decimal.value).sum ∧
      (each.map Decimal.value).sum ≤ items.length * rule.highest.value := by
  induction items generalizing each with
  | nil =>
    cases charged
    simp
  | cons item rest ih =>
    rw [List.mapM_cons] at charged
    simp only [bind_ok, pure_ok] at charged
    obtain ⟨fee, single, others, later, rfl⟩ := charged
    have own := FeeRule.charge_within valid single
    rw [← Decimal.value_le_iff, ← Decimal.value_le_iff] at own
    have tail := ih later
    rw [List.map_cons, List.sum_cons, List.length_cons]
    push_cast
    constructor
    · linarith
    · linarith

theorem singleFees_within (valid : policy.validate = .ok ())
    (charged : policy.singleFees items = .ok singles) :
    policy.lowest items.length ≤ (singles.map Decimal.value).sum ∧
      (singles.map Decimal.value).sum ≤ policy.highest items.length := by
  obtain ⟨flat, item⟩ := validate_parts valid
  unfold singleFees itemCharges at charged
  simp only [bind_ok, pure_ok] at charged
  obtain ⟨total, _, each, made, fee, due, rfl⟩ := charged
  have whole := FeeRule.charge_within flat due
  rw [← Decimal.value_le_iff, ← Decimal.value_le_iff] at whole
  have parts : items.length * (policy.itemFee.elim 0 fun rule => rule.lowest.value) ≤
        (each.map Decimal.value).sum ∧
      (each.map Decimal.value).sum ≤
        items.length * (policy.itemFee.elim 0 fun rule => rule.highest.value) := by
    cases given : policy.itemFee with
    | none =>
      rw [given] at made
      cases made
      simp
    | some rule =>
      rw [given] at made
      exact charges_within (item rule given) made
  rw [List.map_append, List.sum_append, List.map_singleton, List.sum_singleton]
  unfold lowest highest
  constructor
  · linarith
  · linarith

-- A fee leaves the bounds by no more than what rounding has added to the sums.
theorem feeOn_drift (valid : policy.validate = .ok ()) (charged : policy.feeOn items = .ok fee)
    (made : policy.singleFees items = .ok singles) :
    policy.lowest items.length ≤
        fee.value - Decimal.accumulated Decimal.add? Decimal.value Decimal.zero singles ∧
      fee.value - Decimal.accumulated Decimal.add? Decimal.value Decimal.zero singles ≤
        policy.highest items.length := by
  obtain ⟨singles', whole, made', summed, same⟩ := feeOn_singles charged
  obtain rfl : singles = singles' := Except.ok.inj (made.symm.trans made')
  have total := Decimal.foldlM_accumulated Decimal.value summed
  rw [← Decimal.value_eq_iff.mpr same, total, Decimal.value_zero, zero_add, add_sub_cancel_right]
  exact singleFees_within valid made

-- A fee made up of single ones: never below zero, and between the bounds where no sum of
-- the single fees had to be rounded.
structure Bounded (policy : CurrencyPolicy) (items : List Decimal) (fee : Decimal)
    (singles : List Decimal) : Prop where
  made : policy.singleFees items = .ok singles
  added : ∃ whole, singles.foldlM Decimal.add? Decimal.zero = some whole ∧ whole.value = fee.value
  nonneg : 0 ≤ fee.value
  within : Decimal.Unrounded Decimal.zero singles →
    policy.lowest items.length ≤ fee.value ∧ fee.value ≤ policy.highest items.length

-- A valid policy has such a fee on any amounts, unless some number does not fit.
theorem feeOn_bounded (items : List Decimal) (valid : policy.validate = .ok ()) :
    (∃ fee singles, policy.feeOn items = .ok fee ∧ Bounded policy items fee singles) ∨
      ∃ overflow, policy.feeOn items = .error (.arithmetic overflow) := by
  cases charged : policy.feeOn items with
  | error fault =>
    obtain ⟨overflow, rfl⟩ := feeOn_fault valid charged
    exact .inr ⟨overflow, rfl⟩
  | ok fee =>
    obtain ⟨singles, whole, made, summed, same⟩ := feeOn_singles charged
    have bounds := feeOn_drift valid charged made
    refine .inl ⟨fee, singles, rfl, ?_⟩
    constructor
    case made => exact made
    case added => exact ⟨whole, summed, Decimal.value_eq_iff.mpr same⟩
    case nonneg => exact Decimal.value_nonneg_iff.mpr (feeOn_nonneg valid charged)
    case within =>
      intro unrounded
      rwa [unrounded.accumulated_eq_zero, sub_zero] at bounds

end CurrencyPolicy

namespace Sample

def tariff : CurrencyPolicy :=
  ⟨Decimal.zero, .proportional alice (decimal 1 1) (decimal 1 0) (decimal 50 0),
    some (.fixed bob (decimal 2 0))⟩

def debts : List Decimal := [decimal (-35) 1, decimal 10 0, decimal 25 2]

end Sample

theorem tariff_bounded : Sample.tariff.validate = .ok () ∧
    Sample.tariff.feeOn Sample.debts = .ok (Sample.decimal 7 0) ∧
    Sample.tariff.lowest 3 ≤ (Sample.decimal 7 0).value ∧
    (Sample.decimal 7 0).value ≤ Sample.tariff.highest 3 := by
  have valid : Sample.tariff.validate = .ok () := by decide +kernel
  have charged : Sample.tariff.feeOn Sample.debts = .ok (Sample.decimal 7 0) := by decide +kernel
  have made : Sample.tariff.singleFees Sample.debts = .ok
      [Sample.decimal 2 0, Sample.decimal 2 0, Sample.decimal 2 0, Sample.decimal 1 0] := by
    decide +kernel
  refine ⟨valid, charged, ?_⟩
  rcases CurrencyPolicy.feeOn_bounded Sample.debts valid with
    ⟨fee, singles, charged', bounded⟩ | ⟨overflow, failed⟩
  · rw [charged] at charged'
    cases charged'
    obtain rfl := Except.ok.inj (made.symm.trans bounded.made)
    exact bounded.within (.of_fits (s := 0) (by decide +kernel))
  · rw [charged] at failed
    cases failed

end SignedLedger

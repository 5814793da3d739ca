import SignedLedger.Proofs.Decimal.Total
import SignedLedger.Proofs.Pipeline.Consistency
import SignedLedger.Proofs.State.Settled

-- What a balance closes with, in whole units: the changes are summed up first, one
-- after another, and the sum is put to the stored balance.
namespace SignedLedger
open Check

-- None where a sum has no room, and where the result is below zero.
def closing? (committed : Int) (values : List MergeValue) : Option Int := do
  let delta ← Decimal.running? 0 (values.map MergeValue.units)
  let total ← Decimal.total? (committed + delta)
  if total < 0 then none else some total

theorem closing_some {committed x : Int} {values : List MergeValue} :
    closing? committed values = some x ↔
      ∃ delta, Decimal.running? 0 (values.map MergeValue.units) = some delta ∧
        Decimal.total? (committed + delta) = some x ∧ 0 ≤ x := by
  unfold closing?
  simp only [Option.bind_eq_bind, Option.bind_eq_some_iff]
  refine exists_congr fun delta => and_congr_right fun _ => ?_
  constructor
  · rintro ⟨total, summed, kept⟩
    split at kept
    · cases kept
    · rename_i above
      cases kept
      exact ⟨summed, Int.not_lt.mp above⟩
  · rintro ⟨summed, nonneg⟩
    exact ⟨x, summed, if_neg (Int.not_lt.mpr nonneg)⟩

theorem applyTo_total {value : MergeValue} (balanced : value.kind = .balance) (a : Decimal) :
    (value.applyTo a).map Decimal.units = Decimal.total? (a.units + value.units) := by
  cases value with
  | set _ _ => cases balanced
  | credit _ amount => exact Decimal.add_total a amount.value
  | debit _ amount =>
    rw [MergeValue.units, ← Int.sub_eq_add_neg]
    exact Decimal.sub_total a amount.value

theorem applyTo_running {values : List MergeValue} (kinds : ∀ value ∈ values, value.kind = .balance)
    (a : Decimal) :
    (values.foldlM MergeValue.applyTo a).map Decimal.units =
      Decimal.running? a.units (values.map MergeValue.units) :=
  Decimal.foldlM_running (fun value member => applyTo_total (kinds value member)) a

theorem MergeValue.named_of_kind {value : MergeValue} (balanced : value.kind = .balance) :
    ∃ owner currency, StateKey.readBalance? value.key = some (owner, currency) := by
  cases value with
  | set _ _ => cases balanced
  | credit a amount => exact ⟨a, amount.currency, StateKey.readBalance_balance _ _⟩
  | debit a amount => exact ⟨a, amount.currency, StateKey.readBalance_balance _ _⟩

section Closing
variable {reader : Reader} {key : String} {values : List MergeValue} {stored : Option Decimal}

theorem settled_closing (touched : values ≠ []) (kinds : ∀ value ∈ values, value.kind = .balance)
    (same : ∀ value ∈ values, value.key = key)
    (read : Lookup.balanceByKey reader key = .ok stored) {x : Int} :
    closing? (stored.getD Decimal.zero).units values = some x ↔
      ∃ amount : Amount, Settled reader key values (.balance amount) ∧ amount.value.units = x := by
  have running := applyTo_running kinds Decimal.zero
  rw [Decimal.units_zero] at running
  rw [closing_some, ← running]
  constructor
  · rintro ⟨_, units, closed, nonneg⟩
    obtain ⟨delta, summed, rfl⟩ := Option.map_eq_some_iff.mp units
    rw [← Decimal.add_total] at closed
    obtain ⟨total, added, rfl⟩ := Option.map_eq_some_iff.mp closed
    obtain ⟨value, member⟩ := List.exists_mem_of_ne_nil values touched
    obtain ⟨owner, currency, named⟩ := MergeValue.named_of_kind (kinds value member)
    rw [same value member] at named
    exact ⟨⟨currency, total⟩, .balance touched kinds named read summed added
      (Decimal.not_isNegative_iff.mpr nonneg), rfl⟩
  · rintro ⟨amount, settled, rfl⟩
    cases settled with
    | set kinds' _ _ _ => exact (kinds_apart touched kinds kinds').elim
    | balance _ _ _ read' summed added nonneg =>
      cases read.symm.trans read'
      refine ⟨_, by rw [summed, Option.map_some], ?_, Decimal.not_isNegative_iff.mp nonneg⟩
      rw [← Decimal.add_total, added, Option.map_some]

theorem Settled.closes {value : StateValue} (settled : Settled reader key values value)
    (touched : values ≠ []) (kinds : ∀ value ∈ values, value.kind = .balance)
    (same : ∀ value ∈ values, value.key = key) :
    ∃ stored amount, Lookup.balanceByKey reader key = .ok stored ∧ value = .balance amount ∧
      closing? (stored.getD Decimal.zero).units values = some amount.value.units := by
  cases id settled with
  | set kinds' _ _ _ => exact (kinds_apart touched kinds kinds').elim
  | balance _ _ _ read _ _ _ =>
    exact ⟨_, _, read, rfl, (settled_closing touched kinds same read).mpr ⟨_, settled, rfl⟩⟩

theorem Settled.closes_from {value : StateValue} (settled : Settled reader key values value)
    (touched : values ≠ []) (kinds : ∀ value ∈ values, value.kind = .balance)
    (same : ∀ value ∈ values, value.key = key)
    (read : Lookup.balanceByKey reader key = .ok stored) :
    ∃ amount, value = .balance amount ∧
      closing? (stored.getD Decimal.zero).units values = some amount.value.units := by
  obtain ⟨_, amount, read', held, closed⟩ := settled.closes touched kinds same
  cases read.symm.trans read'
  exact ⟨amount, held, closed⟩

end Closing
end SignedLedger

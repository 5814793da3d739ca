import SignedLedger.Proofs.Operation.Amounts
import SignedLedger.Proofs.Pipeline.Fee

-- Totals that have been taken before. The fee of a currency is worked out on the sum of
-- the item amounts, in the order of the items, and the processor later sums the same
-- amounts in the same order; so what the fees have summed cannot overflow any more.
namespace SignedLedger
open Check

theorem FeeBase.ofAmounts_find (amounts : List Amount) (c : Currency) :
    ((FeeBase.ofAmounts amounts).find? c).getD [] = amountsIn c amounts := by
  have grown (base : FeeBase) : ((amounts.foldl FeeBase.add base).find? c).getD [] =
      (base.find? c).getD [] ++ amountsIn c amounts := by
    induction amounts generalizing base with
    | nil => exact (List.append_nil _).symm
    | cons amount rest ih =>
      rw [List.foldl_cons, ih, FeeBase.add, Table.find_set]
      by_cases same : amount.currency = c
      · subst same
        simp [amountsIn]
      · simp [amountsIn, same]
  exact grown []

theorem CurrencyPolicy.feeOn_summed {policy : CurrencyPolicy} {items : List Decimal}
    {fee : Decimal} (charged : policy.feeOn items = .ok fee) :
    ∃ total, items.foldlM Decimal.add? Decimal.zero = some total := by
  unfold feeOn at charged
  obtain ⟨total, summed, _⟩ := bind_ok.mp charged
  exact ⟨total, foldlM_addFee.mp summed⟩

theorem chargesIn_summed {reader : Reader} {payer : Address} {base : FeeBase}
    {charges : List FeeCharge} (found : chargesIn reader payer base = .ok charges) :
    ∀ entry ∈ base, ∃ total, entry.2.foldlM Decimal.add? Decimal.zero = some total := by
  intro entry member
  obtain ⟨results, mapped, _⟩ := chargesIn_iff.mp found
  obtain ⟨charge, _, single⟩ := (mapM_mem mapped).1 entry member
  obtain ⟨_, _, priced, _⟩ := chargeIn_iff.mp single
  exact CurrencyPolicy.feeOn_summed priced.computed

theorem changeTotal_succeeds {overflow : Currency → Overflow} {amounts : List Amount}
    {entry : Option Decimal} {total : Decimal}
    (summed : (amounts.map Amount.value).foldlM Decimal.add? (entry.getD Decimal.zero) = some total) :
    ∃ result, amounts.foldlM (Table.changeEntry (changeTotal overflow)) entry = .ok result := by
  induction amounts generalizing entry with
  | nil => exact ⟨entry, rfl⟩
  | cons amount rest ih =>
    rw [List.map_cons, List.foldlM_cons, Option.bind_eq_bind, Option.bind_eq_some_iff] at summed
    obtain ⟨next, added, later⟩ := summed
    obtain ⟨result, done⟩ : ∃ result,
        rest.foldlM (Table.changeEntry (changeTotal overflow)) (some next) = .ok result := ih later
    refine ⟨result, ?_⟩
    have stepped : Table.changeEntry (changeTotal overflow) entry amount = .ok (some next) := by
      unfold Table.changeEntry changeTotal
      rw [added]
      rfl
    rw [List.foldlM_cons, stepped]
    exact done

theorem totalsOf_succeeds {overflow : Currency → Overflow} {amounts : List Amount}
    {reader : Reader} {payer : Address} {charges : List FeeCharge}
    (charged : chargesIn reader payer (FeeBase.ofAmounts amounts) = .ok charges) :
    ∃ totals, totalsOf overflow amounts = .ok totals := by
  unfold totalsOf
  rw [addTotal_update]
  apply Table.foldlM_succeeds.mpr
  intro c
  obtain ⟨total, summed⟩ : ∃ total,
      (amountsIn c amounts).foldlM Decimal.add? Decimal.zero = some total := by
    rw [← FeeBase.ofAmounts_find]
    cases found : (FeeBase.ofAmounts amounts).find? c with
    | none => exact ⟨Decimal.zero, rfl⟩
    | some items => exact chargesIn_summed charged (c, items) (Table.find_mem found)
  exact changeTotal_succeeds summed

end SignedLedger

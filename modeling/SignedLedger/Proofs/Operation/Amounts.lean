import SignedLedger.Operation.Content
import SignedLedger.Proofs.Decimal.Fold
import SignedLedger.Proofs.Table

namespace SignedLedger
open Check

instance : Std.Irrefl (α := Currency) (· < ·) := ⟨fun c => String.lt_irrefl c.text⟩

instance : Trans (α := Currency) (· < ·) (· < ·) (· < ·) := ⟨String.lt_trans⟩

instance : Std.Trichotomous (α := Currency) (· < ·) :=
  ⟨fun a b above below => Currency.ext
    (Std.Trichotomous.trichotomous (r := fun s t : String => s < t) a.text b.text above below)⟩

theorem checkEachAmount_ok {seen : List Currency} {amounts : List Amount}
    (checked : checkEachAmount seen amounts = .ok ()) :
    ∀ amount ∈ amounts, 0 < amount.value.units := by
  induction amounts generalizing seen with
  | nil => simp
  | cons amount rest ih =>
    unfold checkEachAmount at checked
    simp only [bind_ok, require_ok, decide_eq_true_eq] at checked
    obtain ⟨_, positive, _, _, later⟩ := checked
    intro other member
    rcases List.mem_cons.mp member with rfl | within
    · exact Decimal.zero_lt_iff.mp positive
    · exact ih later other within

theorem checkAmounts_ok {limits : Limits} {amounts : List Amount}
    (checked : checkAmounts limits amounts = .ok ()) :
    ∀ amount ∈ amounts, 0 < amount.value.units := by
  unfold checkAmounts at checked
  simp only [bind_ok] at checked
  obtain ⟨_, _, _, _, each⟩ := checked
  exact checkEachAmount_ok each

def amountsIn (c : Currency) (amounts : List Amount) : List Decimal :=
  (amounts.filter fun amount => amount.currency = c).map Amount.value

def changeTotal (overflow : Currency → Overflow) (entry : Option Decimal) (amount : Amount) :
    Except Fault Decimal :=
  match (entry.getD Decimal.zero).add? amount.value with
  | some total => .ok total
  | none => .error (.arithmetic (overflow amount.currency))

theorem addTotal_update (overflow : Currency → Overflow) :
    addTotal overflow = Table.update Amount.currency (changeTotal overflow) := by
  funext totals amount
  unfold addTotal Table.update changeTotal
  cases ((totals.find? amount.currency).getD Decimal.zero).add? amount.value with
  | none => rfl
  | some total => rfl

theorem changeTotal_sum {overflow : Currency → Overflow} {amounts : List Amount}
    {entry result : Option Decimal}
    (summed : amounts.foldlM (Table.changeEntry (changeTotal overflow)) entry = .ok result) :
    (amounts.map Amount.value).foldlM Decimal.add? (entry.getD Decimal.zero) =
      some (result.getD Decimal.zero) := by
  induction amounts generalizing entry with
  | nil =>
    cases summed
    rfl
  | cons amount rest ih =>
    rw [List.foldlM_cons, bind_ok] at summed
    obtain ⟨next, stepped, later⟩ := summed
    unfold Table.changeEntry changeTotal at stepped
    simp only [bind_ok, pure_ok] at stepped
    obtain ⟨total, added, rfl⟩ := stepped
    split at added
    · rename_i reached sum
      cases added
      rw [List.map_cons, List.foldlM_cons, sum]
      exact ih later
    · cases added

theorem totalsOf_ok {overflow : Currency → Overflow} {amounts : List Amount}
    {totals : Table Currency Decimal} (summed : totalsOf overflow amounts = .ok totals) :
    Table.Ascending totals ∧ ∀ c, (amountsIn c amounts).foldlM Decimal.add? Decimal.zero =
      some ((totals.find? c).getD Decimal.zero) := by
  unfold totalsOf at summed
  rw [addTotal_update] at summed
  exact ⟨Table.foldlM_ascending .nil summed,
    fun c => changeTotal_sum (Table.foldlM_find summed c)⟩

end SignedLedger

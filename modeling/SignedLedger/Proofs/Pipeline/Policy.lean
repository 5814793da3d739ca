import SignedLedger.Pipeline.Fee
import SignedLedger.Proofs.Check
import SignedLedger.Proofs.Decimal.Fold

-- Fees under a valid policy. A rule stays between its bounds on every amount, and what
-- a policy takes is the sum of its single charges; so no fee is ever below zero, and
-- where nobody receives it there is none.
namespace SignedLedger
open Check

namespace FeeRule
variable {rule : FeeRule} {amount fee : Decimal}

def lowest : FeeRule → Decimal
  | .free => Decimal.zero
  | .fixed _ fee => fee
  | .proportional _ _ minimum _ => minimum

def highest : FeeRule → Decimal
  | .free => Decimal.zero
  | .fixed _ fee => fee
  | .proportional _ _ _ maximum => maximum

theorem bounds_of_valid (valid : rule.validate = .ok ()) :
    0 ≤ rule.lowest.units ∧ rule.lowest.units ≤ rule.highest.units := by
  cases rule with
  | free => exact ⟨Decimal.units_zero.ge, Int.le_refl _⟩
  | fixed receiver flat =>
    simp only [validate] at valid
    split at valid
    · cases valid
    · rename_i kept
      rw [Decimal.lt_iff_units, Decimal.units_zero, Int.not_lt] at kept
      exact ⟨kept, Int.le_refl _⟩
  | proportional receiver ratio minimum maximum =>
    simp only [validate] at valid
    split at valid
    · cases valid
    · split at valid
      · cases valid
      · rename_i kept
        rw [not_or, Decimal.lt_iff_units, Decimal.lt_iff_units, Decimal.units_zero, Int.not_lt,
          Int.not_lt] at kept
        exact kept

-- However the product was rounded, the bounds are applied to it afterwards.
theorem charge_within (valid : rule.validate = .ok ()) (charged : rule.charge amount = .ok fee) :
    rule.lowest.units ≤ fee.units ∧ fee.units ≤ rule.highest.units := by
  have ordered := (bounds_of_valid valid).2
  cases rule with
  | free =>
    cases charged
    exact ⟨Int.le_refl _, Int.le_refl _⟩
  | fixed receiver flat =>
    cases charged
    exact ⟨Int.le_refl _, Int.le_refl _⟩
  | proportional receiver ratio minimum maximum =>
    unfold charge at charged
    rw [valid] at charged
    simp only [bind, Except.bind] at charged
    split at charged
    · cases charged
    · rename_i product _
      cases charged
      rw [Decimal.units_smaller, Decimal.units_larger]
      exact ⟨le_min (le_max_right _ _) ordered, min_le_right _ _⟩

theorem charge_nonneg (valid : rule.validate = .ok ()) (charged : rule.charge amount = .ok fee) :
    0 ≤ fee.units :=
  (bounds_of_valid valid).1.trans (charge_within valid charged).1

theorem isFree_of_receiver (nobody : rule.receiver? = none) : rule.isFree = true := by
  cases rule with
  | free => rfl
  | fixed _ _ => cases nobody
  | proportional _ _ _ _ => cases nobody

theorem charge_of_free (free : rule.isFree = true) (amount : Decimal) :
    rule.charge amount = .ok Decimal.zero := by
  cases rule with
  | free => rfl
  | fixed _ _ => cases free
  | proportional _ _ _ _ => cases free

end FeeRule

theorem addFee_ok {a b sum : Decimal} : addFee a b = .ok sum ↔ a.add? b = some sum := by
  unfold addFee
  cases a.add? b with
  | none => simp
  | some total => simp

theorem foldlM_addFee {items : List Decimal} {start total : Decimal} :
    items.foldlM addFee start = .ok total ↔ items.foldlM Decimal.add? start = some total := by
  induction items generalizing start with
  | nil => simp
  | cons item rest ih =>
    rw [List.foldlM_cons, List.foldlM_cons, bind_ok, Option.bind_eq_bind, Option.bind_eq_some_iff]
    simp only [addFee_ok, ih]

namespace CurrencyPolicy
variable {policy : CurrencyPolicy} {rule : FeeRule} {items : List Decimal} {fee : Decimal}

theorem validate_parts (valid : policy.validate = .ok ()) :
    policy.fee.validate = .ok () ∧
      ∀ rule, policy.itemFee = some rule → rule.validate = .ok () := by
  unfold validate at valid
  simp only [bind_ok] at valid
  obtain ⟨_, flat, item⟩ := valid
  refine ⟨flat, fun rule given => ?_⟩
  rw [given] at item
  exact item

def itemCharges (policy : CurrencyPolicy) (items : List Decimal) : Except Fault (List Decimal) :=
  match policy.itemFee with
  | none => .ok []
  | some rule => items.mapM rule.charge

-- All that a policy charges, in the order in which it is added up: each item on its
-- own, then their total.
def singleFees (policy : CurrencyPolicy) (items : List Decimal) : Except Fault (List Decimal) := do
  let total ← items.foldlM addFee Decimal.zero
  let each ← policy.itemCharges items
  let flat ← policy.fee.charge total
  return each ++ [flat]

theorem itemFees_iff : itemFees rule items = .ok fee ↔
    ∃ each, items.mapM rule.charge = .ok each ∧ each.foldlM addFee Decimal.zero = .ok fee := by
  unfold itemFees
  generalize Decimal.zero = start
  induction items generalizing start with
  | nil => simp
  | cons item rest ih =>
    rw [List.foldlM_cons, List.mapM_cons]
    simp only [bind_ok, pure_ok, ih]
    constructor
    · rintro ⟨next, ⟨charge, single, added⟩, each, charged, summed⟩
      refine ⟨charge :: each, ⟨charge, single, each, charged, rfl⟩, ?_⟩
      rw [List.foldlM_cons, bind_ok]
      exact ⟨next, added, summed⟩
    · rintro ⟨_, ⟨charge, single, each, charged, rfl⟩, summed⟩
      rw [List.foldlM_cons, bind_ok] at summed
      obtain ⟨next, added, later⟩ := summed
      exact ⟨next, ⟨charge, single, added⟩, each, charged, later⟩

-- A flat rule that is free is passed over, which a zero at the end of the sum does not
-- change.
theorem feeOn_singles (charged : policy.feeOn items = .ok fee) : ∃ singles whole,
    policy.singleFees items = .ok singles ∧
      singles.foldlM Decimal.add? Decimal.zero = some whole ∧ whole.units = fee.units := by
  unfold feeOn at charged
  unfold singleFees itemCharges
  simp only [bind_ok] at charged
  obtain ⟨total, summed, charged⟩ := charged
  cases given : policy.itemFee with
  | none =>
    simp only [given] at charged
    refine ⟨[fee], fee, ?_, rfl, rfl⟩
    simp only [bind_ok, pure_ok]
    exact ⟨total, summed, [], rfl, fee, charged, rfl⟩
  | some rule =>
    simp only [given, bind_ok, itemFees_iff] at charged
    obtain ⟨sum, ⟨each, single, added⟩, charged⟩ := charged
    have before : each.foldlM Decimal.add? Decimal.zero = some sum := foldlM_addFee.mp added
    obtain ⟨flat, whole, due, ended, same⟩ : ∃ flat whole, policy.fee.charge total = .ok flat ∧
        sum.add? flat = some whole ∧ whole.units = fee.units := by
      split at charged
      -- The flat fee was not added at all; adding a zero gives the same number.
      · rename_i free
        cases charged
        obtain ⟨whole, ended, same⟩ := Decimal.exists_add_zero fee
        exact ⟨Decimal.zero, whole, FeeRule.charge_of_free free total, ended, same⟩
      · simp only [bind_ok, addFee_ok] at charged
        obtain ⟨flat, due, ended⟩ := charged
        exact ⟨flat, fee, due, ended, rfl⟩
    refine ⟨each ++ [flat], whole, ?_, ?_, same⟩
    · simp only [bind_ok, pure_ok]
      exact ⟨total, summed, each, single, flat, due, rfl⟩
    · rw [List.foldlM_append, before]
      simpa using ended

theorem singleFees_nonneg {singles : List Decimal} (valid : policy.validate = .ok ())
    (charged : policy.singleFees items = .ok singles) : ∀ single ∈ singles, 0 ≤ single.units := by
  obtain ⟨flat, item⟩ := validate_parts valid
  unfold singleFees itemCharges at charged
  simp only [bind_ok, pure_ok] at charged
  obtain ⟨total, _, each, made, fee, due, rfl⟩ := charged
  intro single member
  rcases List.mem_append.mp member with within | last
  · split at made
    · cases made
      cases within
    · rename_i rule given
      obtain ⟨amount, _, found⟩ := (mapM_mem made).2 single within
      exact FeeRule.charge_nonneg (item rule given) found
  · obtain rfl := List.mem_singleton.mp last
    exact FeeRule.charge_nonneg flat due

theorem feeOn_nonneg (valid : policy.validate = .ok ())
    (charged : policy.feeOn items = .ok fee) : 0 ≤ fee.units := by
  obtain ⟨singles, whole, made, summed, same⟩ := feeOn_singles charged
  have sums : Decimal.SumsTo Decimal.zero (singles.map Decimal.units) whole :=
    .of_foldlM (fun _ single _ => Decimal.add_rounds (b := single)) summed
  have grown := sums.le_of_nonneg fun change member => by
    obtain ⟨single, listed, rfl⟩ := List.mem_map.mp member
    exact singleFees_nonneg valid made single listed
  rw [Decimal.units_zero, same] at grown
  exact grown

theorem itemFees_of_free (free : rule.isFree = true)
    (summed : itemFees rule items = .ok fee) : fee = Decimal.zero := by
  unfold itemFees at summed
  induction items with
  | nil =>
    cases summed
    rfl
  | cons item rest ih =>
    rw [List.foldlM_cons] at summed
    simp only [bind_ok] at summed
    obtain ⟨next, ⟨single, charged, added⟩, later⟩ := summed
    rw [FeeRule.charge_of_free free] at charged
    cases charged
    cases added
    exact ih later

theorem feeOn_of_free (free : policy.receiver? = none)
    (charged : policy.feeOn items = .ok fee) : fee = Decimal.zero := by
  unfold receiver? at free
  split at free
  · cases free
  · rename_i nobody
    have flat := FeeRule.isFree_of_receiver nobody
    unfold feeOn at charged
    simp only [bind_ok] at charged
    obtain ⟨total, _, charged⟩ := charged
    split at charged
    · rw [FeeRule.charge_of_free flat] at charged
      cases charged
      rfl
    · rename_i rule given
      rw [given] at free
      simp only [bind_ok] at charged
      obtain ⟨sum, summed, charged⟩ := charged
      rw [if_pos flat, itemFees_of_free (FeeRule.isFree_of_receiver free) summed] at charged
      cases charged
      rfl

end CurrencyPolicy
end SignedLedger

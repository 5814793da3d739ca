import SignedLedger.Proofs.Operation.Amounts
import SignedLedger.Proofs.Pipeline.Consistency
import SignedLedger.Proofs.Pipeline.Fee
import SignedLedger.Session.Engine

-- What operations of the built-in types write. Nothing but a credit or a debit goes
-- to a balance key, and no credit is negative.
namespace SignedLedger
open Check

def MergeValue.Sound : MergeValue → Prop
  | .set key _ => StateKey.isBalance key = false
  | .credit _ amount => 0 ≤ amount.value.units
  | .debit _ _ => True

theorem MergeValue.Sound.kind_eq {value : MergeValue} (sound : value.Sound)
    (named : StateKey.isBalance value.key = true) : value.kind = .balance := by
  cases value with
  | set key _ =>
    have other : StateKey.isBalance key = false := sound
    exact absurd named (by simp [MergeValue.key, other])
  | credit _ _ => rfl
  | debit _ _ => rfl

section Items
variable {limits : Limits} {sender : Address}

theorem checkParties_ok {itself twice : String} {seen : List Address} {items : List Payment}
    (checked : checkParties limits sender itself twice seen items = .ok ()) :
    ∀ item ∈ items, ∀ amount ∈ item.amounts, 0 < amount.value.units := by
  induction items generalizing seen with
  | nil => simp
  | cons item rest ih =>
    unfold checkParties at checked
    simp only [bind_ok] at checked
    obtain ⟨_, amounts, _, _, _, _, later⟩ := checked
    intro other member
    rcases List.mem_cons.mp member with rfl | within
    · exact checkAmounts_ok amounts
    · exact ih later other within

theorem checkOpenings_ok {seen : List Address} {openings : List Opening}
    (checked : checkOpenings limits sender seen openings = .ok ()) :
    ∀ opening ∈ openings, ∀ amount ∈ opening.item.amounts, 0 < amount.value.units := by
  induction openings generalizing seen with
  | nil => simp
  | cons opening rest ih =>
    unfold checkOpenings at checked
    simp only [bind_ok] at checked
    obtain ⟨_, amounts, _, _, _, _, _, _, later⟩ := checked
    intro other member
    rcases List.mem_cons.mp member with rfl | within
    · exact checkAmounts_ok amounts
    · exact ih later other within

theorem debitTotals_sound (payer : Address) (totals : Table Currency Decimal) :
    ∀ value ∈ debitTotals payer totals, value.Sound := by
  intro value member
  obtain ⟨entry, _, rfl⟩ := List.mem_map.mp member
  trivial

theorem fundingEffects_ok {openings : List Opening} {values : List MergeValue}
    (funded : fundingEffects sender openings = .ok values) :
    ∃ totals, totalsOf .fundingTotal (openingAmounts openings) = .ok totals ∧
      values = (openings.flatMap fun opening =>
        opening.item.amounts.map (MergeValue.credit opening.address)) ++
          debitTotals sender totals := by
  unfold fundingEffects at funded
  simp only [bind_ok, pure_ok] at funded
  obtain ⟨totals, summed, rfl⟩ := funded
  exact ⟨totals, summed, rfl⟩

theorem fundingEffects_sound {openings : List Opening} {values : List MergeValue}
    (positive : ∀ opening ∈ openings, ∀ amount ∈ opening.item.amounts, 0 < amount.value.units)
    (funded : fundingEffects sender openings = .ok values) : ∀ value ∈ values, value.Sound := by
  obtain ⟨totals, _, rfl⟩ := fundingEffects_ok funded
  intro value member
  rcases List.mem_append.mp member with credit | debit
  · obtain ⟨opening, held, inside⟩ := List.mem_flatMap.mp credit
    obtain ⟨amount, listed, rfl⟩ := List.mem_map.mp inside
    exact (positive opening held amount listed).le
  · exact debitTotals_sound _ _ value debit

end Items

section Facts
variable {limits : Limits} {reader : Reader} {values : List MergeValue}

theorem Transfer.effects_ok {f : Transfer} (written : f.effects = .ok values) :
    ∃ totals, totalsOf .transferTotal (allAmounts f.items) = .ok totals ∧
      values = debitTotals f.sender totals ++ f.credits := by
  unfold Transfer.effects at written
  simp only [bind_ok, pure_ok] at written
  obtain ⟨totals, summed, rfl⟩ := written
  exact ⟨totals, summed, rfl⟩

theorem Transfer.effects_sound {f : Transfer} (valid : f.validate limits = .ok ())
    (written : f.effects = .ok values) : ∀ value ∈ values, value.Sound := by
  unfold Transfer.validate at valid
  simp only [bind_ok] at valid
  obtain ⟨_, _, _, _, parties⟩ := valid
  obtain ⟨totals, _, rfl⟩ := Transfer.effects_ok written
  intro value member
  rcases List.mem_append.mp member with debit | credit
  · exact debitTotals_sound _ _ value debit
  · obtain ⟨item, held, inside⟩ := List.mem_flatMap.mp credit
    obtain ⟨amount, listed, rfl⟩ := List.mem_map.mp inside
    exact (checkParties_ok parties item held amount listed).le

theorem Withdraw.effects_sound {f : Withdraw} (valid : f.validate limits = .ok ()) :
    ∀ value ∈ f.effects, value.Sound := by
  unfold Withdraw.validate at valid
  simp only [bind_ok] at valid
  obtain ⟨_, _, _, _, parties⟩ := valid
  intro value member
  obtain ⟨item, held, inside⟩ := List.mem_flatMap.mp member
  obtain ⟨amount, listed, pair⟩ := List.mem_flatMap.mp inside
  rcases List.mem_cons.mp pair with rfl | second
  · trivial
  · obtain rfl := List.mem_singleton.mp second
    exact (checkParties_ok parties item held amount listed).le

theorem CreateAccount.effects_sound {f : CreateAccount} (valid : f.validate limits = .ok ())
    (written : f.effects = .ok values) : ∀ value ∈ values, value.Sound := by
  unfold CreateAccount.validate at valid
  unfold CreateAccount.effects at written
  simp only [bind_ok, pure_ok] at valid written
  obtain ⟨_, _, _, _, openings⟩ := valid
  obtain ⟨funding, funded, rfl⟩ := written
  intro value member
  rcases List.mem_append.mp member with account | money
  · obtain ⟨opening, _, rfl⟩ := List.mem_map.mp account
    exact StateKey.isBalance_account _
  · exact fundingEffects_sound (checkOpenings_ok openings) funded value money

theorem CreateContract.effects_sound {f : CreateContract} (valid : f.validate limits = .ok ())
    (written : f.effects = .ok values) : ∀ value ∈ values, value.Sound := by
  unfold CreateContract.validate at valid
  unfold CreateContract.effects at written
  simp only [bind_ok, pure_ok] at valid written
  obtain ⟨_, _, _, _, openings⟩ := valid
  obtain ⟨funding, funded, rfl⟩ := written
  intro value member
  rcases List.mem_append.mp member with account | money
  · obtain ⟨opening, _, pair⟩ := List.mem_flatMap.mp account
    rcases List.mem_cons.mp pair with rfl | second
    · exact StateKey.isBalance_account _
    · obtain rfl := List.mem_singleton.mp second
      exact StateKey.isBalance_contractAccount _
  · exact fundingEffects_sound (checkOpenings_ok openings) funded value money

theorem RegisterModel.effects_sound {f : RegisterModel} (written : f.effects reader = .ok values) :
    ∀ value ∈ values, value.Sound := by
  unfold RegisterModel.effects at written
  simp only [bind_ok, pure_ok] at written
  obtain ⟨status, _, rfl⟩ := written
  simp only [List.mem_cons, List.not_mem_nil, or_false, forall_eq_or_imp, forall_eq]
  exact ⟨StateKey.isBalance_didDesign _, StateKey.isBalance_contractAccount _⟩

theorem CreateDid.effects_sound {f : CreateDid} (written : f.effects reader = .ok values) :
    ∀ value ∈ values, value.Sound := by
  unfold CreateDid.effects at written
  simp only [bind_ok, pure_ok] at written
  obtain ⟨design, _, rfl⟩ := written
  simp only [List.mem_cons, List.not_mem_nil, or_false, forall_eq_or_imp, forall_eq]
  exact ⟨StateKey.isBalance_didData _ _, StateKey.isBalance_didDocument _ _⟩

theorem UpdateDocument.effects_sound {f : UpdateDocument}
    (written : f.effects reader = .ok values) : ∀ value ∈ values, value.Sound := by
  unfold UpdateDocument.effects at written
  simp only [bind_ok, pure_ok] at written
  obtain ⟨document, _, rfl⟩ := written
  simp only [List.mem_cons, List.not_mem_nil, or_false, forall_eq]
  exact StateKey.isBalance_didDocument _ _

end Facts

theorem Processor.effects_sound {p : Processor} {op : Operation} {limits : Limits}
    {kind : FactKind} {values : List MergeValue} (builtIn : op.fact.kind? = some kind)
    (valid : op.fact.validate limits = .ok ()) (written : p.effects op = .ok values) :
    ∀ value ∈ values, value.Sound := by
  unfold Processor.effects at written
  split at written
  all_goals try rename_i served held
  all_goals try rw [held] at valid
  · exact Transfer.effects_sound valid (lift_ok.mp written)
  · exact CreateAccount.effects_sound valid (lift_ok.mp written)
  · exact CreateContract.effects_sound valid (lift_ok.mp written)
  · cases written
    exact Withdraw.effects_sound valid
  · obtain ⟨_, _, written⟩ := bind_ok.mp written
    exact RegisterModel.effects_sound written
  · obtain ⟨_, _, written⟩ := bind_ok.mp written
    exact CreateDid.effects_sound written
  · obtain ⟨_, _, written⟩ := bind_ok.mp written
    exact UpdateDocument.effects_sound written
  · cases written
    simp
  · simp at written
  · obtain ⟨_, _, written⟩ := bind_ok.mp written
    rw [served.downcast (by rw [builtIn]; rfl) written]
    simp

theorem feeEffects_sound {charge : FeeCharge} {payer : Address} (sound : charge.Sound payer) :
    ∀ value ∈ feeEffects charge, value.Sound := by
  intro value member
  unfold feeEffects at member
  rcases List.mem_cons.mp member with rfl | credit
  · trivial
  · split at credit
    · cases credit
    · split at credit
      · cases credit
      · obtain rfl := List.mem_singleton.mp credit
        exact sound.positive.le

theorem typeAndFeeValues_parts {p : Processor} {op : Operation} {reader : Reader}
    {values : List MergeValue} (written : typeAndFeeValues p op reader = .ok values) :
    ∃ own charges, p.effects op = .ok own ∧ op.charges reader = .ok charges ∧
      values = own ++ charges.flatMap feeEffects := by
  unfold typeAndFeeValues at written
  simp only [bind_ok, pure_ok] at written
  obtain ⟨own, effects, fees, settled, rfl⟩ := written
  obtain ⟨charges, found, rfl⟩ := Operation.feeValues_ok settled
  exact ⟨own, charges, effects, found, rfl⟩

theorem typeAndFeeValues_sound {p : Processor} {op : Operation} {reader : Reader} {limits : Limits}
    {kind : FactKind} {values : List MergeValue} (builtIn : op.fact.kind? = some kind)
    (valid : op.fact.validate limits = .ok ())
    (written : typeAndFeeValues p op reader = .ok values) : ∀ value ∈ values, value.Sound := by
  obtain ⟨own, charges, effects, found, rfl⟩ := typeAndFeeValues_parts written
  intro value member
  rcases List.mem_append.mp member with typed | fee
  · exact Processor.effects_sound builtIn valid effects value typed
  · obtain ⟨charge, held, inside⟩ := List.mem_flatMap.mp fee
    obtain ⟨payer, sound⟩ := Operation.charges_sound found charge held
    exact feeEffects_sound sound value inside

end SignedLedger

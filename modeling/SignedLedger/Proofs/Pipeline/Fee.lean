import SignedLedger.Proofs.Pipeline.Policy

-- The charges of an operation, one for each currency that is due: each is above zero
-- and has somebody who receives it.
namespace SignedLedger
open Check

structure Priced (reader : Reader) (c : Currency) (items : List Decimal)
    (policy : CurrencyPolicy) (fee : Decimal) : Prop where
  stored : ∃ design, Lookup.currencyDesign reader c = .ok (some design) ∧ design.policy = policy
  valid : policy.validate = .ok ()
  computed : policy.feeOn items = .ok fee

structure FeeCharge.Sound (charge : FeeCharge) (payer : Address) : Prop where
  payer_eq : charge.payer = payer
  positive : 0 < charge.amount.value.units
  received : charge.receiver.isSome = true

structure FeeCharge.Payable (charge : FeeCharge) (reader : Reader) : Prop where
  held : ∃ balance, Lookup.balance reader charge.payer charge.amount.currency = .ok (some balance)
  received : ∀ receiver, charge.receiver = some receiver →
    ∃ account, Lookup.account reader receiver = .ok (some account)

section Charges
variable {reader : Reader} {payer : Address} {c : Currency} {items : List Decimal} {base : FeeBase}
  {charges : List FeeCharge}

theorem chargeIn_iff {charge : Option FeeCharge} :
    chargeIn reader payer c items = .ok charge ↔ ∃ policy fee, Priced reader c items policy fee ∧
      charge = if fee.isZero then none else some ⟨payer, policy.receiver?, ⟨c, fee⟩⟩ := by
  unfold chargeIn Lookup.existingCurrencyDesign
  simp only [bind_ok, lift_ok, existing_ok]
  constructor
  · rintro ⟨design, stored, _, valid, fee, computed, taken⟩
    refine ⟨design.policy, fee, ⟨⟨design, stored, rfl⟩, valid, computed⟩, ?_⟩
    split at taken
    · rename_i free
      rw [if_pos free]
      exact (pure_ok.mp taken).symm
    · rename_i due
      rw [if_neg due]
      exact (pure_ok.mp taken).symm
  · rintro ⟨policy, fee, ⟨⟨design, stored, rfl⟩, valid, computed⟩, rfl⟩
    refine ⟨design, stored, (), valid, fee, computed, ?_⟩
    split
    · rfl
    · rfl

theorem chargeIn_some {charge : FeeCharge} :
    chargeIn reader payer c items = .ok (some charge) ↔ ∃ policy fee,
      Priced reader c items policy fee ∧ fee.isZero = false ∧
        charge = ⟨payer, policy.receiver?, ⟨c, fee⟩⟩ := by
  rw [chargeIn_iff]
  constructor
  · rintro ⟨policy, fee, priced, same⟩
    split at same
    · cases same
    · rename_i due
      exact ⟨policy, fee, priced, by simpa using due, Option.some.inj same⟩
  · rintro ⟨policy, fee, priced, due, rfl⟩
    exact ⟨policy, fee, priced, by simp [due]⟩

theorem chargeIn_sound {charge : FeeCharge}
    (found : chargeIn reader payer c items = .ok (some charge)) : charge.Sound payer := by
  obtain ⟨policy, fee, priced, due, rfl⟩ := chargeIn_some.mp found
  have some : fee.units ≠ 0 := fun zero => by
    rw [Decimal.isZero_iff.mpr zero] at due
    cases due
  have nonneg := CurrencyPolicy.feeOn_nonneg priced.valid priced.computed
  refine ⟨rfl, by dsimp only; omega, ?_⟩
  rw [Option.isSome_iff_ne_none]
  intro nobody
  rw [CurrencyPolicy.feeOn_of_free nobody priced.computed] at some
  exact some Decimal.units_zero

theorem chargesIn_iff : chargesIn reader payer base = .ok charges ↔ ∃ found,
    base.mapM (fun entry => chargeIn reader payer entry.1 entry.2) = .ok found ∧
      charges = found.flatMap Option.toList := by
  induction base generalizing charges with
  | nil =>
    constructor
    · rintro ⟨⟩
      exact ⟨[], rfl, rfl⟩
    · rintro ⟨_, ⟨⟩, rfl⟩
      rfl
  | cons entry rest ih =>
    rw [List.mapM_cons]
    simp only [chargesIn, bind_ok, pure_ok, ih]
    constructor
    · rintro ⟨charge, single, _, ⟨found, later, rfl⟩, rfl⟩
      exact ⟨charge :: found, ⟨charge, single, found, later, rfl⟩, rfl⟩
    · rintro ⟨_, ⟨charge, single, found, later, rfl⟩, rfl⟩
      exact ⟨charge, single, _, ⟨found, later, rfl⟩, rfl⟩

theorem chargesIn_mem (done : chargesIn reader payer base = .ok charges) {charge : FeeCharge} :
    charge ∈ charges ↔ ∃ entry ∈ base, chargeIn reader payer entry.1 entry.2 = .ok (some charge) := by
  obtain ⟨found, mapped, rfl⟩ := chargesIn_iff.mp done
  obtain ⟨there, back⟩ := mapM_mem mapped
  simp only [List.mem_flatMap, Option.mem_toList]
  constructor
  · rintro ⟨result, member, rfl⟩
    exact back _ member
  · rintro ⟨entry, member, single⟩
    obtain ⟨result, inside, same⟩ := there entry member
    rw [single] at same
    exact ⟨result, inside, (Except.ok.inj same).symm⟩

theorem chargesIn_sound (found : chargesIn reader payer base = .ok charges) :
    ∀ charge ∈ charges, charge.Sound payer := by
  intro charge member
  obtain ⟨_, _, single⟩ := (chargesIn_mem found).mp member
  exact chargeIn_sound single

theorem Operation.charges_sound {op : Operation} (found : op.charges reader = .ok charges) :
    ∀ charge ∈ charges, ∃ payer, charge.Sound payer := by
  unfold Operation.charges at found
  cases terms : op.fact.feeTerms? with
  | none =>
    simp only [terms] at found
    cases found
    simp
  | some terms' =>
    simp only [terms] at found
    exact fun charge member => ⟨_, chargesIn_sound found charge member⟩

theorem settleCharge_iff {charge : FeeCharge} {values : List MergeValue} :
    settleCharge reader charge = .ok values ↔
      charge.Payable reader ∧ values = feeEffects charge := by
  unfold settleCharge Lookup.existingBalance Lookup.existingAccount
  simp only [bind_ok, existing_ok]
  constructor
  · rintro ⟨balance, held, settled⟩
    split at settled
    · rename_i nobody
      exact ⟨⟨⟨balance, held⟩, fun _ given => by rw [nobody] at given; cases given⟩,
        (pure_ok.mp settled).symm⟩
    · rename_i receiver received
      simp only [bind_ok, existing_ok, pure_ok] at settled
      obtain ⟨account, found, same⟩ := settled
      refine ⟨⟨⟨balance, held⟩, fun other given => ?_⟩, same.symm⟩
      rw [received] at given
      cases given
      exact ⟨account, found⟩
  · rintro ⟨⟨⟨balance, held⟩, received⟩, rfl⟩
    refine ⟨balance, held, ?_⟩
    split
    · rfl
    · rename_i receiver given
      obtain ⟨account, found⟩ := received receiver given
      simp only [bind_ok, existing_ok]
      exact ⟨account, found, rfl⟩

theorem settleCharges_iff {values : List MergeValue} :
    settleCharges reader charges = .ok values ↔
      (∀ charge ∈ charges, charge.Payable reader) ∧ values = charges.flatMap feeEffects := by
  induction charges generalizing values with
  | nil => simp [settleCharges, eq_comm]
  | cons charge rest ih =>
    simp only [settleCharges, bind_ok, pure_ok, settleCharge_iff, ih, List.forall_mem_cons,
      List.flatMap_cons]
    constructor
    · rintro ⟨_, ⟨own, rfl⟩, _, ⟨others, rfl⟩, rfl⟩
      exact ⟨⟨own, others⟩, rfl⟩
    · rintro ⟨⟨own, others⟩, rfl⟩
      exact ⟨_, ⟨own, rfl⟩, _, ⟨others, rfl⟩, rfl⟩

theorem Operation.feeValues_iff {op : Operation} {values : List MergeValue} :
    op.feeValues reader = .ok values ↔ ∃ charges, op.charges reader = .ok charges ∧
      (∀ charge ∈ charges, charge.Payable reader) ∧ values = charges.flatMap feeEffects := by
  unfold Operation.feeValues
  simp only [bind_ok, settleCharges_iff]

theorem Operation.feeValues_ok {op : Operation} {values : List MergeValue}
    (settled : op.feeValues reader = .ok values) :
    ∃ charges, op.charges reader = .ok charges ∧ values = charges.flatMap feeEffects := by
  obtain ⟨charges, found, _, written⟩ := Operation.feeValues_iff.mp settled
  exact ⟨charges, found, written⟩

end Charges
end SignedLedger

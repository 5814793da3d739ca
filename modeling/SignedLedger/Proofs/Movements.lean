import SignedLedger.Proofs.Billing
import SignedLedger.Proofs.Operation.Movements
import SignedLedger.Proofs.Operation.Totals
import SignedLedger.Proofs.Session.Registry

-- What payments do to every single balance. With the fee of each currency the movements
-- of its items are all that an accepted operation comes to, under whichever key and in
-- whatever roles an account takes part in it.
namespace SignedLedger
open Check

-- What is charged in a currency, and who receives it: nothing where no amount is given,
-- else what the policy of the stored currency makes of the amounts.
inductive FeeIn (reader : Reader) (c : Currency) : List Decimal → Decimal → Option Address → Prop
  where
  | none : FeeIn reader c [] Decimal.zero none
  | charged {items : List Decimal} {design : CurrencyDesign} {fee : Decimal} (some : items ≠ [])
      (found : Lookup.existingCurrencyDesign reader c = .ok design)
      (charged : design.policy.feeOn items = .ok fee) :
      FeeIn reader c items fee design.policy.receiver?

theorem FeeIn.unique {reader : Reader} {c : Currency} {items : List Decimal} {fee fee' : Decimal}
    {receiver receiver' : Option Address} (one : FeeIn reader c items fee receiver)
    (other : FeeIn reader c items fee' receiver') : fee = fee' ∧ receiver = receiver' := by
  cases one with
  | none =>
    cases other with
    | none => exact ⟨rfl, rfl⟩
    | charged some _ _ => exact absurd rfl some
  | charged some found charged =>
    cases other with
    | none => exact absurd rfl some
    | charged _ found' charged' =>
      rw [found] at found'
      cases found'
      rw [charged] at charged'
      exact ⟨Except.ok.inj charged', rfl⟩

def chargesOf (c : Currency) (charges : List FeeCharge) : List FeeCharge :=
  charges.filter fun charge => charge.amount.currency = c

def chargeFor (payer : Address) (c : Currency) (fee : Decimal) (receiver : Option Address) :
    List FeeCharge :=
  if fee.isZero then [] else [⟨payer, receiver, ⟨c, fee⟩⟩]

section Fees
variable {reader : Reader} {payer : Address} {c : Currency}

theorem FeeBase.ofAmounts_sound (amounts : List Amount) :
    Table.Ascending (FeeBase.ofAmounts amounts) ∧
      ∀ entry ∈ FeeBase.ofAmounts amounts, entry.2 ≠ [] := by
  have grown (base : FeeBase) (ascending : Table.Ascending base)
      (filled : ∀ entry ∈ base, entry.2 ≠ []) : Table.Ascending (amounts.foldl FeeBase.add base) ∧
        ∀ entry ∈ amounts.foldl FeeBase.add base, entry.2 ≠ [] := by
    induction amounts generalizing base with
    | nil => exact ⟨ascending, filled⟩
    | cons amount rest ih =>
      refine ih _ (Table.set_ascending ascending _ _) fun entry member => ?_
      rcases Table.mem_set member with rfl | old
      · simp
      · exact filled entry old
  exact grown [] .nil (by simp)

theorem chargeIn_fee {items : List Decimal} {charge : Option FeeCharge} (some : items ≠ [])
    (found : chargeIn reader payer c items = .ok charge) : ∃ fee receiver,
      FeeIn reader c items fee receiver ∧ charge.toList = chargeFor payer c fee receiver := by
  obtain ⟨_, fee, ⟨⟨design, stored, rfl⟩, _, charged⟩, rfl⟩ := chargeIn_iff.mp found
  have known : Lookup.existingCurrencyDesign reader c = .ok design := existing_ok.mpr stored
  refine ⟨fee, design.policy.receiver?, .charged some known charged, ?_⟩
  unfold chargeFor
  split
  · rfl
  · rfl

theorem chargeFor_currency (payer : Address) (c : Currency) (fee : Decimal)
    (receiver : Option Address) :
    ∀ charge ∈ chargeFor payer c fee receiver, charge.amount.currency = c := by
  intro charge member
  unfold chargeFor at member
  split at member
  · cases member
  · rw [List.mem_singleton.mp member]

-- A currency is charged once, on what is listed of it.
theorem chargesIn_fee {base : FeeBase} {charges : List FeeCharge}
    (ascending : Table.Ascending base) (filled : ∀ entry ∈ base, entry.2 ≠ [])
    (found : chargesIn reader payer base = .ok charges) (c : Currency) : ∃ fee receiver,
      FeeIn reader c ((base.find? c).getD []) fee receiver ∧
        chargesOf c charges = chargeFor payer c fee receiver := by
  induction base generalizing charges with
  | nil =>
    cases found
    exact ⟨Decimal.zero, none, .none, rfl⟩
  | cons entry rest ih =>
    obtain ⟨currency, items⟩ := entry
    obtain ⟨below, ordered⟩ := List.pairwise_cons.mp ascending
    obtain ⟨some, others⟩ := List.forall_mem_cons.mp filled
    unfold chargesIn at found
    simp only [bind_ok, pure_ok] at found
    obtain ⟨first, single, more, later, rfl⟩ := found
    obtain ⟨fee, receiver, fees, listed⟩ := chargeIn_fee some single
    have own := chargeFor_currency payer currency fee receiver
    obtain ⟨fee', receiver', fees', listed'⟩ := ih ordered others later
    rw [Table.find_cons, listed, chargesOf, List.filter_append, ← chargesOf, ← chargesOf]
    by_cases same : currency = c
    · subst same
      -- It comes first, so there is none of it in the rest.
      have absent : Table.find? rest currency = none := by
        cases again : Table.find? rest currency with
        | none => rfl
        | some items' => exact absurd (below _ (Table.find_mem again)) Std.lt_irrefl
      rw [absent] at fees'
      have nothing : chargesOf currency more = [] := by
        rw [listed']
        cases fees' with
        | none => rfl
        | charged empty _ _ => exact absurd rfl empty
      refine ⟨fee, receiver, by rwa [if_pos rfl], ?_⟩
      rw [nothing, List.append_nil, chargesOf, List.filter_eq_self]
      exact fun charge member => decide_eq_true (own charge member)
    · refine ⟨fee', receiver', by rwa [if_neg same], ?_⟩
      have apart : chargesOf c (chargeFor payer currency fee receiver) = [] :=
        List.filter_eq_nil_iff.mpr fun charge member equal =>
          same ((own charge member).symm.trans (of_decide_eq_true equal))
      rw [apart, List.nil_append, listed']

theorem feeEffects_key {charge : FeeCharge} {value : MergeValue}
    (member : value ∈ feeEffects charge) : ∃ a, (a = charge.payer ∨ charge.receiver = some a) ∧
      value.key = StateKey.balance a charge.amount.currency := by
  unfold feeEffects at member
  rcases List.mem_cons.mp member with rfl | credit
  · exact ⟨charge.payer, .inl rfl, rfl⟩
  · split at credit
    · cases credit
    · rename_i receiver received
      split at credit
      · cases credit
      · rw [List.mem_singleton.mp credit]
        exact ⟨receiver, .inr received, rfl⟩

theorem signedSum_fees {x : Address} (charges : List FeeCharge) :
    signedSum (StateKey.balance x c) (charges.flatMap feeEffects) =
      signedSum (StateKey.balance x c) ((chargesOf c charges).flatMap feeEffects) := by
  unfold chargesOf
  induction charges with
  | nil => rfl
  | cons charge rest ih =>
    rw [List.flatMap_cons, signedSum_append, ih]
    by_cases same : charge.amount.currency = c
    · rw [List.filter_cons_of_pos (by simpa using same), List.flatMap_cons, signedSum_append]
    · rw [List.filter_cons_of_neg (by simpa using same), signedSum_quiet, zero_add]
      intro value member key
      obtain ⟨a, _, named⟩ := feeEffects_key member
      exact absurd (StateKey.balance_inj.mp (named.symm.trans key)).2 same

theorem signedSum_feeEffects (x : Address) (fee : Decimal) (receiver : Option Address) :
    signedSum (StateKey.balance x c) (feeEffects ⟨payer, receiver, ⟨c, fee⟩⟩) =
      (if receiver = some x ∧ x ≠ payer then fee.value else 0) -
        (if x = payer then fee.value else 0) := by
  have none : signedSum (StateKey.balance x c) [] = 0 := rfl
  have debit : signedSum (StateKey.balance x c) [.debit payer ⟨c, fee⟩] =
      -(if x = payer then fee.value else 0) := by
    rw [signedSum_cons, none, add_zero]
    simp only [MergeValue.key, StateKey.balance_inj, MergeValue.change, and_true, eq_comm (a := x)]
    split
    · rfl
    · exact neg_zero.symm
  have credit (a : Address) : signedSum (StateKey.balance x c) [.credit a ⟨c, fee⟩] =
      if a = x then fee.value else 0 := by
    rw [signedSum_cons, none, add_zero]
    simp only [MergeValue.key, StateKey.balance_inj, MergeValue.change, and_true]
  unfold feeEffects
  cases receiver with
  | none => simp [debit]
  | some a =>
    dsimp only
    by_cases own : a = payer
    · have nobody : ¬ (some a = some x ∧ x ≠ payer) := by
        rintro ⟨same, apart⟩
        exact apart ((Option.some.inj same).symm.trans own)
      rw [if_pos own, debit, if_neg nobody, zero_sub]
    · have other : (some a = some x ∧ x ≠ payer) ↔ a = x := by
        constructor
        · rintro ⟨same, _⟩
          exact Option.some.inj same
        · rintro rfl
          exact ⟨rfl, own⟩
      rw [if_neg own, ← List.singleton_append, signedSum_append, debit, credit,
        if_congr other rfl rfl]
      ring

theorem signedSum_chargeFor (x : Address) (fee : Decimal) (receiver : Option Address) :
    signedSum (StateKey.balance x c) ((chargeFor payer c fee receiver).flatMap feeEffects) =
      (if receiver = some x ∧ x ≠ payer then fee.value else 0) -
        (if x = payer then fee.value else 0) := by
  unfold chargeFor
  split
  · rename_i free
    simp only [Decimal.value_eq_zero_iff.mpr free, ite_self, sub_zero]
    rfl
  · rw [List.flatMap_singleton, signedSum_feeEffects]

theorem ownFees_chargeFor (fee : Decimal) (receiver : Option Address) :
    ownFees c (chargeFor payer c fee receiver) =
      if receiver = some payer then fee.value else 0 := by
  unfold chargeFor
  split
  · rename_i free
    rw [Decimal.value_eq_zero_iff.mpr free, ite_self]
    rfl
  · by_cases own : receiver = some payer
    · simp [ownFees, amountsIn, own]
    · simp [ownFees, amountsIn, own]

theorem ownFees_chargesOf (charges : List FeeCharge) :
    ownFees c (chargesOf c charges) = ownFees c charges := by
  unfold ownFees amountsIn chargesOf
  rw [List.filter_map, List.filter_map, List.filter_filter, List.filter_filter, List.filter_filter]
  congr 4
  refine List.filter_congr fun charge _ => ?_
  cases decide (charge.receiver = some charge.payer) <;> simp

end Fees

-- The accounts that a payment concerns in a currency: those that amounts move between,
-- and where there is a fee to pay its payer and its receiver.
inductive Concerns (reader : Reader) (payer : Address) (moves : List Movement) :
    Address → Currency → Prop where
  | source {m : Movement} (member : m ∈ moves) :
      Concerns reader payer moves m.source m.amount.currency
  | target {m : Movement} (member : m ∈ moves) :
      Concerns reader payer moves m.target m.amount.currency
  | payer {c : Currency} {fee : Decimal} {receiver : Option Address}
      (fees : FeeIn reader c (amountsIn c (moves.map Movement.amount)) fee receiver)
      (due : fee.isZero = false) : Concerns reader payer moves payer c
  | receiver {c : Currency} {fee : Decimal} {a : Address}
      (fees : FeeIn reader c (amountsIn c (moves.map Movement.amount)) fee (some a))
      (due : fee.isZero = false) : Concerns reader payer moves a c

theorem concerned_of_fee {reader : Reader} {payer : Address} {moves : List Movement}
    {charges : List FeeCharge}
    (each : ∀ c, ∃ fee receiver,
      FeeIn reader c (amountsIn c (moves.map Movement.amount)) fee receiver ∧
        chargesOf c charges = chargeFor payer c fee receiver)
    {value : MergeValue} (member : value ∈ charges.flatMap feeEffects) :
    ∃ x c, Concerns reader payer moves x c ∧ value.key = StateKey.balance x c := by
  obtain ⟨charge, held, inside⟩ := List.mem_flatMap.mp member
  obtain ⟨fee, receiver, fees, listed⟩ := each charge.amount.currency
  have here : charge ∈ chargesOf charge.amount.currency charges :=
    List.mem_filter.mpr ⟨held, decide_eq_true rfl⟩
  rw [listed] at here
  unfold chargeFor at here
  split at here
  · cases here
  · rename_i due
    have same := List.mem_singleton.mp here
    obtain ⟨a, party, key⟩ := feeEffects_key inside
    refine ⟨a, charge.amount.currency, ?_, key⟩
    rcases party with rfl | received
    · rw [congrArg FeeCharge.payer same]
      exact .payer fees (by simpa using due)
    · rw [congrArg FeeCharge.receiver same] at received
      dsimp only at received
      subst received
      exact .receiver fees (by simpa using due)

theorem MoneyOnly.changing {values : List MergeValue} (money : MoneyOnly values)
    {value : MergeValue} (member : value ∈ values)
    (balanced : StateKey.isBalance value.key = true) : value.kind = .balance := by
  cases value with
  | set key held =>
    have plain := money key held member
    rw [show StateKey.isBalance key = true from balanced] at plain
    cases plain
  | credit _ _ => rfl
  | debit _ _ => rfl

section Accepted
variable {settings : Settings} {e : Engine} {s : Session} {ctx : Context} {op : Operation}
  {reader : Reader} {values : List MergeValue}

theorem Engine.accepted_parts (path : Engine.Reachable settings e)
    (standard : settings.registry = Registry.standard) (byHint : settings.dispatch.ByHint)
    (accepted : (e.process s ctx op reader).answer = .ok (.accepted values)) :
    ∃ kind own charges, op.fact.kind? = some kind ∧ op.fact.ownEffects reader = .ok own ∧
      op.charges reader = .ok charges ∧ values = own ++ charges.flatMap feeEffects := by
  obtain ⟨processor, rest, found, made, _⟩ := runProcess_ok (process_accepted accepted)
  have served := Settings.find_server (reachable_clean path).processors found
  rw [reachable_settings path] at served
  obtain ⟨kind, serving, _⟩ := Settings.server_standard standard byHint served
  obtain ⟨own, charges, effects, charged, rfl⟩ := typeAndFeeValues_parts made
  rw [Processor.effects_own serving (Settings.server_bound served)] at effects
  split at effects
  · rename_i typed
    exact ⟨kind, own, charges, typed, effects, charged, rfl⟩
  · cases effects

-- What an accepted payment comes to at every balance: what its items give to the account,
-- less what they take from it, less the fee if it is the payer, and the fee if it
-- receives it from another. On the whole nothing but a fee that stays with its payer is
-- missing, and no other balance is touched.
theorem movements_exact {moves : List Movement} (path : Engine.Reachable settings e)
    (standard : settings.registry = Registry.standard) (byHint : settings.dispatch.ByHint)
    (moved : op.fact.movements? = some moves)
    (accepted : (e.process s ctx op reader).answer = .ok (.accepted values)) :
    ∃ terms, op.fact.feeTerms? = some terms ∧
      let payer := op.payer terms
      (∀ c, ∃ fee receiver,
        FeeIn reader c (amountsIn c (moves.map Movement.amount)) fee receiver ∧
          ∀ places, Decimal.Fits places (amountsIn c (moves.map Movement.amount)) →
            (∀ x, signedSum (StateKey.balance x c) values =
              received x c moves - given x c moves - (if x = payer then fee.value else 0) +
                (if receiver = some x ∧ x ≠ payer then fee.value else 0)) ∧
            netIn c values = -(if receiver = some payer then fee.value else 0)) ∧
      ∀ value ∈ values, StateKey.isBalance value.key = true →
        ∃ x c, Concerns reader payer moves x c ∧ value.key = StateKey.balance x c := by
  obtain ⟨kind, own, charges, builtIn, written, charged, rfl⟩ :=
    Engine.accepted_parts path standard byHint accepted
  have carries := Fact.ownEffects_carry moved written
  have money := (Fact.ownEffects_money builtIn written).withFees charges
  obtain ⟨terms, known, base⟩ := Fact.feeTerms_of_movements moved
  have sound := Operation.charges_sound charged
  unfold Operation.charges at charged
  rw [known] at charged
  dsimp only at charged
  rw [base] at charged
  -- The fee base lists the amounts of the movements by currency.
  obtain ⟨ascending, filled⟩ := FeeBase.ofAmounts_sound (moves.map Movement.amount)
  have each (c : Currency) := chargesIn_fee ascending filled charged c
  simp only [FeeBase.ofAmounts_find] at each
  refine ⟨terms, known, fun c => ?_, fun value member balanced => ?_⟩
  · obtain ⟨fee, receiver, fees, listed⟩ := each c
    refine ⟨fee, receiver, fees, fun places fits => ⟨fun x => ?_, ?_⟩⟩
    · rw [signedSum_append, carries.exact c places fits, signedSum_fees, listed,
        signedSum_chargeFor]
      ring
    · rw [netIn_append, carries.even c places fits, charges_net sound, ← ownFees_chargesOf, listed,
        ownFees_chargeFor, zero_add]
  · rcases List.mem_append.mp member with typed | fee
    · obtain ⟨m, listed, source | target⟩ := carries.within value typed
        (money.changing member balanced)
      · exact ⟨m.source, m.amount.currency, .source listed, source⟩
      · exact ⟨m.target, m.amount.currency, .target listed, target⟩
    · exact concerned_of_fee each fee

end Accepted

def proxyValues : List MergeValue :=
  [.debit Sample.alice (Sample.amount 10 0), .credit Sample.bob (Sample.amount 10 0)] ++ proxyFees

set_option maxRecDepth 100000 in
theorem movements_exact_proxied :
    (Sample.engine.process plainSession Context.active proxyPayment proxyLedger.reader).answer =
        .ok (.accepted proxyValues) ∧
      signedSum (StateKey.balance Sample.alice Sample.coin) proxyValues = -10 ∧
      signedSum (StateKey.balance Sample.bob Sample.coin) proxyValues = 11 ∧
      signedSum (StateKey.balance Sample.carol Sample.coin) proxyValues = -1 ∧
      netIn Sample.coin proxyValues = 0 := by
  have path : Engine.Reachable Sample.settings Sample.engine := .new 1 1
  have accepted : (Sample.engine.process plainSession Context.active proxyPayment
      proxyLedger.reader).answer = .ok (.accepted proxyValues) := by decide +kernel
  obtain ⟨terms, known, each, _⟩ := movements_exact path rfl DispatchRule.registry_byHint rfl accepted
  obtain ⟨fee, receiver, fees, exact⟩ := each Sample.coin
  cases known
  have stored : Lookup.existingCurrencyDesign proxyLedger.reader Sample.coin =
      .ok ⟨Sample.coin, Sample.alice, Sample.decimal 1000000 0,
        ⟨Decimal.zero, .fixed Sample.bob (Sample.decimal 1 0), none⟩⟩ := by decide +kernel
  have flat : FeeIn proxyLedger.reader Sample.coin [Sample.decimal 10 0] (Sample.decimal 1 0)
      (some Sample.bob) := .charged (by simp) stored (by decide +kernel)
  obtain ⟨rfl, rfl⟩ := fees.unique flat
  obtain ⟨balances, net⟩ := exact 0 (by decide +kernel)
  refine ⟨accepted, ?_, ?_, ?_, ?_⟩
  · rw [balances]
    decide +kernel
  · rw [balances]
    decide +kernel
  · rw [balances]
    decide +kernel
  · rw [net]
    decide +kernel

end SignedLedger

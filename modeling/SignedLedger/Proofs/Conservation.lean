import SignedLedger.Proofs.Operation.Effects
import SignedLedger.Proofs.Sample
import SignedLedger.Proofs.Session.Answers
import SignedLedger.Proofs.State.Total

-- Where money comes from and where it goes. What an operation takes is what it gives,
-- but for a fee that its own payer receives, and for what is lost or gained where a
-- sum is rounded.
namespace SignedLedger
open Check

section Net
variable {c : Currency}

theorem netIn_cons (value : MergeValue) (rest : List MergeValue) :
    netIn c (value :: rest) = value.changeIn c + netIn c rest := by
  rw [netIn, List.map_cons, List.sum_cons]
  rfl

theorem netIn_flatMap {α : Type} (items : List α) (written : α → List MergeValue) :
    netIn c (items.flatMap written) = (items.map fun item => netIn c (written item)).sum := by
  induction items with
  | nil => rfl
  | cons item rest ih => rw [List.flatMap_cons, netIn_append, ih, List.map_cons, List.sum_cons]

theorem netIn_quiet {values : List MergeValue} (quiet : ∀ value ∈ values, value.changeIn c = 0) :
    netIn c values = 0 := by
  refine List.sum_eq_zero fun change member => ?_
  obtain ⟨value, listed, rfl⟩ := List.mem_map.mp member
  exact quiet value listed

theorem sum_amountsIn_cons (amount : Amount) (rest : List Amount) :
    ((amountsIn c (amount :: rest)).map Decimal.value).sum =
      (if amount.currency = c then amount.value.value else 0) +
        ((amountsIn c rest).map Decimal.value).sum := by
  by_cases same : amount.currency = c
  · simp [amountsIn, same]
  · simp [amountsIn, same]

theorem netIn_credits {α : Type} (party : α → Address) (amounts : α → List Amount)
    (items : List α) :
    netIn c (items.flatMap fun item => (amounts item).map (MergeValue.credit (party item))) =
      ((amountsIn c (items.flatMap amounts)).map Decimal.value).sum := by
  have one (a : Address) (given : List Amount) :
      netIn c (given.map (MergeValue.credit a)) = ((amountsIn c given).map Decimal.value).sum := by
    induction given with
    | nil => rfl
    | cons amount rest ih =>
      rw [List.map_cons, netIn_cons, ih, sum_amountsIn_cons]
      rfl
  induction items with
  | nil => rfl
  | cons item rest ih =>
    rw [List.flatMap_cons, netIn_append, one, ih, List.flatMap_cons, amountsIn, amountsIn, amountsIn,
      List.filter_append, List.map_append, List.map_append, List.sum_append]

theorem netIn_debitTotals (payer : Address) {totals : Table Currency Decimal}
    (ascending : Table.Ascending totals) :
    netIn c (debitTotals payer totals) = -((totals.find? c).getD Decimal.zero).value := by
  induction totals with
  | nil => simp [debitTotals, netIn, Table.find_nil, Decimal.value_zero]
  | cons entry rest ih =>
    obtain ⟨below, ordered⟩ := List.pairwise_cons.mp ascending
    rw [debitTotals, List.map_cons, netIn_cons, ← debitTotals, Table.find_cons, MergeValue.changeIn]
    by_cases same : entry.1 = c
    · rw [if_pos same, if_pos same]
      have others : netIn c (debitTotals payer rest) = 0 := by
        refine netIn_quiet fun value member => ?_
        obtain ⟨other, listed, rfl⟩ := List.mem_map.mp member
        have apart : other.1 ≠ c := fun equal =>
          Std.lt_irrefl (same.trans equal.symm ▸ below other listed)
        exact if_neg apart
      rw [others, add_zero]
      rfl
    · rw [if_neg same, if_neg same, zero_add, ih ordered]

end Net

def totalRounding (c : Currency) (amounts : List Amount) : ℚ :=
  Decimal.accumulated Decimal.add? Decimal.value Decimal.zero (amountsIn c amounts)

-- Paid with one debit a currency, credits leave the rounding of that debit.
theorem paid_net {c : Currency} {overflow : Currency → Overflow} {amounts : List Amount}
    {totals : Table Currency Decimal} (payer : Address)
    (summed : totalsOf overflow amounts = .ok totals) :
    ((amountsIn c amounts).map Decimal.value).sum + netIn c (debitTotals payer totals) =
      -totalRounding c amounts := by
  obtain ⟨ascending, sums⟩ := totalsOf_ok summed
  have total := Decimal.foldlM_accumulated Decimal.value (sums c)
  rw [netIn_debitTotals payer ascending, total, Decimal.value_zero, totalRounding]
  ring

namespace Processor

def summed (p : Processor) (fact : Fact) : List Amount :=
  match p.kind, fact with
  | .builtIn .transfer, .transfer f => allAmounts f.items
  | .builtIn .createAccount, .createAccount f => openingAmounts f.openings
  | .builtIn .createContract, .createContract f => openingAmounts f.openings
  | _, _ => []

end Processor

section Effects
variable {c : Currency} {values : List MergeValue}

theorem Transfer.effects_net {f : Transfer} (written : f.effects = .ok values) :
    netIn c values = -totalRounding c (allAmounts f.items) := by
  obtain ⟨totals, summed, rfl⟩ := Transfer.effects_ok written
  rw [netIn_append, Transfer.credits, netIn_credits, add_comm]
  exact paid_net f.sender summed

theorem fundingEffects_net {sender : Address} {openings : List Opening}
    (funded : fundingEffects sender openings = .ok values) :
    netIn c values = -totalRounding c (openingAmounts openings) := by
  obtain ⟨totals, summed, rfl⟩ := fundingEffects_ok funded
  rw [netIn_append, netIn_credits Opening.address fun opening => opening.item.amounts]
  exact paid_net sender summed

theorem CreateAccount.effects_net {f : CreateAccount} (written : f.effects = .ok values) :
    netIn c values = -totalRounding c (openingAmounts f.openings) := by
  unfold CreateAccount.effects at written
  simp only [bind_ok, pure_ok] at written
  obtain ⟨funding, funded, rfl⟩ := written
  have quiet : netIn c (f.openings.map writes) = 0 := by
    refine netIn_quiet fun value member => ?_
    obtain ⟨opening, _, rfl⟩ := List.mem_map.mp member
    rfl
  rw [netIn_append, quiet, zero_add, fundingEffects_net funded]

theorem CreateContract.effects_net {f : CreateContract} (written : f.effects = .ok values) :
    netIn c values = -totalRounding c (openingAmounts f.openings) := by
  unfold CreateContract.effects at written
  simp only [bind_ok, pure_ok] at written
  obtain ⟨funding, funded, rfl⟩ := written
  have quiet : netIn c (f.openings.flatMap (writes f.sender)) = 0 := by
    refine netIn_quiet fun value member => ?_
    obtain ⟨opening, _, pair⟩ := List.mem_flatMap.mp member
    rcases List.mem_cons.mp pair with rfl | second
    · rfl
    · obtain rfl := List.mem_singleton.mp second
      rfl
  rw [netIn_append, quiet, zero_add, fundingEffects_net funded]

theorem Withdraw.effects_net (f : Withdraw) : netIn c f.effects = 0 := by
  have pair (item : Payment) (amount : Amount) :
      netIn c [.debit item.party amount, .credit f.sender amount] = 0 := by
    by_cases same : amount.currency = c
    · simp [netIn, MergeValue.changeIn, same]
    · simp [netIn, MergeValue.changeIn, same]
  unfold Withdraw.effects
  simp [netIn_flatMap, pair]

theorem RegisterModel.effects_net {f : RegisterModel} {reader : Reader}
    (written : f.effects reader = .ok values) : netIn c values = 0 := by
  unfold RegisterModel.effects at written
  simp only [bind_ok, pure_ok] at written
  obtain ⟨status, _, rfl⟩ := written
  simp [netIn, MergeValue.changeIn]

theorem CreateDid.effects_net {f : CreateDid} {reader : Reader}
    (written : f.effects reader = .ok values) : netIn c values = 0 := by
  unfold CreateDid.effects at written
  simp only [bind_ok, pure_ok] at written
  obtain ⟨design, _, rfl⟩ := written
  simp [netIn, MergeValue.changeIn]

theorem UpdateDocument.effects_net {f : UpdateDocument} {reader : Reader}
    (written : f.effects reader = .ok values) : netIn c values = 0 := by
  unfold UpdateDocument.effects at written
  simp only [bind_ok, pure_ok] at written
  obtain ⟨document, _, rfl⟩ := written
  simp [netIn, MergeValue.changeIn]

theorem Processor.effects_net {p : Processor} {op : Operation} {kind : FactKind}
    (builtIn : op.fact.kind? = some kind) (written : p.effects op = .ok values) :
    netIn c values = -totalRounding c (p.summed op.fact) := by
  have nothing : -totalRounding c [] = 0 := neg_zero
  unfold Processor.effects at written
  unfold Processor.summed
  split at written
  all_goals try rename_i served held
  all_goals try rw [served, held]
  · exact Transfer.effects_net (lift_ok.mp written)
  · exact CreateAccount.effects_net (lift_ok.mp written)
  · exact CreateContract.effects_net (lift_ok.mp written)
  · cases written
    exact (Withdraw.effects_net _).trans nothing.symm
  · obtain ⟨_, _, written⟩ := bind_ok.mp written
    exact (RegisterModel.effects_net written).trans nothing.symm
  · obtain ⟨_, _, written⟩ := bind_ok.mp written
    exact (CreateDid.effects_net written).trans nothing.symm
  · obtain ⟨_, _, written⟩ := bind_ok.mp written
    exact (UpdateDocument.effects_net written).trans nothing.symm
  · cases written
    exact nothing.symm
  · simp at written
  · obtain ⟨_, _, written⟩ := bind_ok.mp written
    rw [served.downcast (by rw [builtIn]; rfl) written, held]
    exact nothing.symm

end Effects

def ownFees (c : Currency) (charges : List FeeCharge) : ℚ :=
  ((amountsIn c ((charges.filter fun charge => charge.receiver = some charge.payer).map
    FeeCharge.amount)).map Decimal.value).sum

theorem feeEffects_net {c : Currency} {charge : FeeCharge} {payer : Address}
    (sound : charge.Sound payer) : netIn c (feeEffects charge) = -ownFees c [charge] := by
  obtain ⟨receiver, received⟩ := Option.isSome_iff_exists.mp sound.received
  have debit : netIn c [.debit charge.payer charge.amount] =
      -((amountsIn c [charge.amount]).map Decimal.value).sum := by
    rw [sum_amountsIn_cons, netIn_cons, MergeValue.changeIn]
    split
    · simp [netIn, amountsIn]
    · simp [netIn, amountsIn]
  have credit : netIn c [.credit receiver charge.amount] =
      ((amountsIn c [charge.amount]).map Decimal.value).sum := by
    rw [sum_amountsIn_cons]
    rfl
  by_cases own : receiver = charge.payer
  · have kept : ownFees c [charge] = ((amountsIn c [charge.amount]).map Decimal.value).sum := by
      simp [ownFees, received, own]
    rw [feeEffects, received, kept, ← debit]
    simp [own]
  · have none : ownFees c [charge] = 0 := by simp [ownFees, received, own, amountsIn]
    have both : feeEffects charge =
        [.debit charge.payer charge.amount] ++ [.credit receiver charge.amount] := by
      simp [feeEffects, received, own]
    rw [both, netIn_append, debit, credit, none, neg_add_cancel, neg_zero]

theorem ownFees_append (c : Currency) (charges more : List FeeCharge) :
    ownFees c (charges ++ more) = ownFees c charges + ownFees c more := by
  unfold ownFees amountsIn
  rw [List.filter_append, List.map_append, List.filter_append, List.map_append, List.map_append,
    List.sum_append]

theorem charges_net {c : Currency} {charges : List FeeCharge}
    (sound : ∀ charge ∈ charges, ∃ payer, charge.Sound payer) :
    netIn c (charges.flatMap feeEffects) = -ownFees c charges := by
  induction charges with
  | nil => rfl
  | cons charge rest ih =>
    obtain ⟨payer, here⟩ := sound charge List.mem_cons_self
    have later := ih fun other member => sound other (List.mem_cons_of_mem _ member)
    have split : ownFees c (charge :: rest) = ownFees c [charge] + ownFees c rest :=
      ownFees_append c [charge] rest
    rw [List.flatMap_cons, netIn_append, feeEffects_net here, later, split]
    ring

-- No sum of an operation has to be rounded: neither the totals that it debits nor
-- what its changes come to under any balance key, all of it in s fraction digits.
structure Fitting (s : Nat) (store : Store) (batches : List Batch) (summed : List Amount)
    (c : Currency) : Prop where
  totals : Decimal.Fits s (amountsIn c summed)
  balances : ∀ key ∈ touchedIn c batches,
    Decimal.Fits s (store.holding key :: (valuesAt key batches).map MergeValue.moved)

instance (s : Nat) (store : Store) (batches : List Batch) (summed : List Amount) (c : Currency) :
    Decidable (Fitting s store batches summed c) :=
  decidable_of_iff (Decimal.Fits s (amountsIn c summed) ∧ ∀ key ∈ touchedIn c batches,
      Decimal.Fits s (store.holding key :: (valuesAt key batches).map MergeValue.moved))
    ⟨fun both => ⟨both.1, both.2⟩, fun fitting => ⟨fitting.totals, fitting.balances⟩⟩

theorem totalRounding_exact {c : Currency} {amounts : List Amount} {s : Nat}
    (fits : Decimal.Fits s (amountsIn c amounts)) : totalRounding c amounts = 0 := by
  obtain ⟨scaled, room⟩ := fits
  have start : (Decimal.tenTo (Decimal.maxScale - s) : Int) ∣ Decimal.zero.units := by
    rw [Decimal.units_zero]
    exact Int.dvd_zero _
  exact (Decimal.accumulated_exact (fun _ _ _ added => Decimal.add_rounds added)
    Decimal.value_eq_units start (fun a member => Decimal.units_whole (scaled a member))
    (by rwa [Decimal.units_zero, Int.natAbs_zero, zero_add])).1

theorem Fitting.exact {s : Nat} {store : Store} {batches : List Batch} {summed : List Amount}
    {c : Currency} (fitting : Fitting s store batches summed c) :
    roundingIn store batches c = 0 ∧ totalRounding c summed = 0 :=
  ⟨Finset.sum_eq_zero fun key member => writeRounding_exact (fitting.balances key member),
    totalRounding_exact fitting.totals⟩

-- The total of a currency after an accepted operation is written: it is kept, less
-- the fees that stay with their payer, exactly when the roundings cancel out, and it
-- is off by them otherwise. Where everything fits nothing is rounded.
theorem total_conserved_exact {e e' : Engine} {s s' : Session} {ctx ctx' : Context} {store : Store}
    {op : Operation} {kind : FactKind} {values : List MergeValue} {height : Height}
    {states : List State} (builtIn : op.fact.kind? = some kind)
    (admitted : (e.preProcess s ctx op store.reader).answer = .ok .admitted)
    (accepted : (e'.process s' ctx' op store.reader).answer = .ok (.accepted values))
    (written : applyMerges height [(op.digest, values)] store.reader = .ok states) :
    ∃ processor rest charges,
      e'.settings.find e'.workshop s' op store.reader = .ok (processor, rest) ∧
      op.charges store.reader = .ok charges ∧
      ∀ c, let summed := processor.summed op.fact
        let gained := roundingIn store [(op.digest, values)] c - totalRounding c summed
        ((store.extend states).total c = store.total c - ownFees c charges ↔ gained = 0) ∧
        (store.extend states).total c = store.total c - ownFees c charges + gained ∧
        ∀ places, Fitting places store [(op.digest, values)] summed c → gained = 0 := by
  obtain ⟨result, _⟩ := Engine.preProcess_admitted admitted
  obtain ⟨_, _, _, _, _, _, form, _⟩ := Engine.runPreProcess_ok result
  obtain ⟨processor, rest, found, made, _⟩ :=
    Engine.runProcess_ok (Engine.process_accepted accepted)
  obtain ⟨own, charges, effects, charged, rfl⟩ := typeAndFeeValues_parts made
  refine ⟨processor, rest, charges, found, charged, ?_⟩
  intro c summed gained
  have sound := typeAndFeeValues_sound builtIn (checkForm_valid form) made
  have net : netIn c (own ++ charges.flatMap feeEffects) =
      -totalRounding c summed - ownFees c charges := by
    rw [netIn_append, Processor.effects_net builtIn effects,
      charges_net (Operation.charges_sound charged)]
    ring
  have total : (store.extend states).total c = store.total c - ownFees c charges + gained := by
    rw [total_extend written (by simpa using fun value member => (sound value member).kind_eq) c]
    rw [List.flatMap_singleton, net]
    ring
  refine ⟨?_, total, fun places fitting => ?_⟩
  · rw [total]
    exact add_eq_left
  · obtain ⟨balances, totals⟩ := fitting.exact
    exact sub_eq_zero.mpr (balances.trans totals.symm)

def plainSession : Session := (Sample.engine.checkout ⟨2⟩ none).1

def plainValues : List MergeValue :=
  [.debit Sample.alice (Sample.amount 10 0), .credit Sample.bob (Sample.amount 10 0)]

def plainBatches : List Batch := [(Sample.plain.digest, plainValues)]

def plainStates : List State :=
  (applyMerges ⟨2⟩ plainBatches Sample.plainLedger.reader).toOption.getD []

set_option maxRecDepth 100000 in
theorem plain_run :
    ((Sample.engine.preProcess plainSession Context.active Sample.plain
        Sample.plainLedger.reader).answer = .ok .admitted ∧
      (Sample.engine.process plainSession Context.active Sample.plain
        Sample.plainLedger.reader).answer = .ok (.accepted plainValues) ∧
      applyMerges ⟨2⟩ plainBatches Sample.plainLedger.reader = .ok plainStates) ∧
    Sample.plain.charges Sample.plainLedger.reader = .ok [] ∧
    (Sample.engine.settings.find Sample.engine.workshop plainSession Sample.plain
      Sample.plainLedger.reader).map (fun pair => pair.1.summed Sample.plain.fact) =
        .ok [Sample.amount 10 0] ∧
    Fitting 0 Sample.plainLedger plainBatches [Sample.amount 10 0] Sample.coin := by
  decide +kernel

theorem total_conserved_exact_plain :
    ((Sample.engine.preProcess plainSession Context.active Sample.plain
        Sample.plainLedger.reader).answer = .ok .admitted ∧
      (Sample.engine.process plainSession Context.active Sample.plain
        Sample.plainLedger.reader).answer = .ok (.accepted plainValues) ∧
      applyMerges ⟨2⟩ plainBatches Sample.plainLedger.reader = .ok plainStates) ∧
    (Sample.plainLedger.extend plainStates).total Sample.coin =
      Sample.plainLedger.total Sample.coin := by
  obtain ⟨⟨admitted, accepted, written⟩, free, sums, fitting⟩ := plain_run
  refine ⟨⟨admitted, accepted, written⟩, ?_⟩
  have builtIn : Sample.plain.fact.kind? = some .transfer := rfl
  obtain ⟨processor, rest, charges, found, charged, each⟩ :=
    total_conserved_exact builtIn admitted accepted written
  obtain ⟨exact, _, fits⟩ := each Sample.coin
  rw [free] at charged
  cases charged
  rw [found] at sums
  have summed : processor.summed Sample.plain.fact = [Sample.amount 10 0] := Except.ok.inj sums
  rw [summed] at exact fits
  have kept := exact.mpr (fits 0 fitting)
  have nothing : ownFees Sample.coin [] = 0 := rfl
  rwa [nothing, sub_zero] at kept

-- Alice pays almost all she has to bob, and a little more to carol. The sum of both
-- payments has one digit too many.
def crowdedLedger : Store :=
  Sample.store [Sample.coins .free, Sample.held Sample.alice Sample.key,
    Sample.held Sample.bob Sample.key, Sample.held Sample.carol Sample.key,
    .balance Sample.alice (Sample.amount 7922816251426433759354395034 0)]

def crowded : Operation :=
  Sample.pay Sample.alice
    [⟨Sample.bob, [Sample.amount 79228162514264337593543950335 1]⟩,
      ⟨Sample.carol, [Sample.amount 4 2]⟩] Extensions.none

def crowdedValues : List MergeValue :=
  [.debit Sample.alice (Sample.amount 79228162514264337593543950335 1),
    .credit Sample.bob (Sample.amount 79228162514264337593543950335 1),
    .credit Sample.carol (Sample.amount 4 2)]

def crowdedStates : List State :=
  (applyMerges ⟨2⟩ [(crowded.digest, crowdedValues)] crowdedLedger.reader).toOption.getD []

set_option maxRecDepth 100000 in
theorem crowded_payment_gains :
    crowdedLedger.NonNegative ∧
      (Sample.engine.preProcess plainSession Context.active crowded
        crowdedLedger.reader).answer = .ok .admitted ∧
      (Sample.engine.process plainSession Context.active crowded
        crowdedLedger.reader).answer = .ok (.accepted crowdedValues) ∧
      applyMerges ⟨2⟩ [(crowded.digest, crowdedValues)] crowdedLedger.reader =
        .ok crowdedStates ∧
      crowded.charges crowdedLedger.reader = .ok [] ∧
      crowdedLedger.total Sample.coin <
        (crowdedLedger.extend crowdedStates).total Sample.coin := by
  decide +kernel

end SignedLedger

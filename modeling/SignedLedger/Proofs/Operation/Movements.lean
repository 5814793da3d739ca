import SignedLedger.Proofs.Conservation
import SignedLedger.Proofs.Operation.Failure

-- What moves from one account to another with the items of a fact, and that the values
-- which a fact writes carry out just that: under every balance key they come to what the
-- account is given less what is taken from it, however the totals are grouped.
namespace SignedLedger
open Check

structure Movement where
  source : Address
  target : Address
  amount : Amount

namespace Movement

def credit (m : Movement) : MergeValue := .credit m.target m.amount

def debit (m : Movement) : MergeValue := .debit m.source m.amount

end Movement

def moving {α : Type} (source target : α → Address) (amounts : α → List Amount) (items : List α) :
    List Movement :=
  items.flatMap fun item => (amounts item).map fun amount => ⟨source item, target item, amount⟩

def Fact.movements? : Fact → Option (List Movement)
  | .transfer f => some (moving (fun _ => f.sender) Payment.party Payment.amounts f.items)
  | .createAccount f => some
      (moving (fun _ => f.sender) Opening.address (fun opening => opening.item.amounts) f.openings)
  | .createContract f => some
      (moving (fun _ => f.sender) Opening.address (fun opening => opening.item.amounts) f.openings)
  | .withdraw f => some (moving Payment.party (fun _ => f.sender) Payment.amounts f.items)
  | _ => none

def worth (amounts : List Amount) : ℚ := (amounts.map fun amount => amount.value.value).sum

def received (x : Address) (c : Currency) (moves : List Movement) : ℚ :=
  worth ((moves.filter fun m => m.target = x ∧ m.amount.currency = c).map Movement.amount)

def given (x : Address) (c : Currency) (moves : List Movement) : ℚ :=
  worth ((moves.filter fun m => m.source = x ∧ m.amount.currency = c).map Movement.amount)

def signedSum (key : String) (values : List MergeValue) : ℚ :=
  ((under key values).map MergeValue.change).sum

section Sums
variable {key : String} {x payer : Address} {c : Currency}

theorem StateKey.balance_inj {a a' : Address} {c c' : Currency} :
    balance a c = balance a' c' ↔ a = a' ∧ c = c' := by
  constructor
  · intro same
    have read := readBalance_balance a c
    rw [same, readBalance_balance] at read
    cases read
    exact ⟨rfl, rfl⟩
  · rintro ⟨rfl, rfl⟩
    rfl

theorem signedSum_cons (value : MergeValue) (rest : List MergeValue) :
    signedSum key (value :: rest) =
      (if value.key = key then value.change else 0) + signedSum key rest := by
  unfold signedSum under
  by_cases same : value.key = key
  · simp [same]
  · simp [same]

theorem signedSum_append (values more : List MergeValue) :
    signedSum key (values ++ more) = signedSum key values + signedSum key more := by
  unfold signedSum under
  rw [List.filter_append, List.map_append, List.sum_append]

theorem signedSum_perm {values more : List MergeValue} (same : values.Perm more) :
    signedSum key values = signedSum key more :=
  ((same.filter _).map _).sum_eq

theorem signedSum_quiet {values : List MergeValue}
    (quiet : ∀ value ∈ values, value.key = key → value.change = 0) : signedSum key values = 0 := by
  refine List.sum_eq_zero fun change member => ?_
  obtain ⟨value, listed, rfl⟩ := List.mem_map.mp member
  obtain ⟨inside, same⟩ := mem_under.mp listed
  exact quiet value inside same

theorem received_cons (m : Movement) (rest : List Movement) :
    received x c (m :: rest) =
      (if m.target = x ∧ m.amount.currency = c then m.amount.value.value else 0) +
        received x c rest := by
  unfold received worth
  by_cases here : m.target = x ∧ m.amount.currency = c
  · simp [here]
  · simp [here]

theorem given_cons (m : Movement) (rest : List Movement) :
    given x c (m :: rest) =
      (if m.source = x ∧ m.amount.currency = c then m.amount.value.value else 0) +
        given x c rest := by
  unfold given worth
  by_cases here : m.source = x ∧ m.amount.currency = c
  · simp [here]
  · simp [here]

theorem signedSum_credits (moves : List Movement) :
    signedSum (StateKey.balance x c) (moves.map Movement.credit) = received x c moves := by
  induction moves with
  | nil => rfl
  | cons m rest ih =>
    rw [List.map_cons, signedSum_cons, ih, received_cons]
    simp only [Movement.credit, MergeValue.key, StateKey.balance_inj, MergeValue.change]

theorem signedSum_debitTotals (totals : Table Currency Decimal) :
    signedSum (StateKey.balance x c) (debitTotals payer totals) =
      if x = payer then netIn c (debitTotals payer totals) else 0 := by
  induction totals with
  | nil => exact (ite_self (0 : ℚ)).symm
  | cons entry rest ih =>
    rw [debitTotals, List.map_cons, signedSum_cons, ← debitTotals, ih, netIn_cons]
    simp only [MergeValue.key, StateKey.balance_inj, MergeValue.change, MergeValue.changeIn]
    by_cases own : x = payer
    · simp [own]
    · simp [own, Ne.symm own]

theorem signedSum_moved (moves : List Movement) :
    signedSum (StateKey.balance x c) (moves.flatMap fun m => [m.debit, m.credit]) =
      received x c moves - given x c moves := by
  induction moves with
  | nil => exact (sub_self (0 : ℚ)).symm
  | cons m rest ih =>
    rw [List.flatMap_cons, List.cons_append, List.singleton_append, signedSum_cons, signedSum_cons,
      ih, received_cons, given_cons]
    simp only [Movement.debit, Movement.credit, MergeValue.key, StateKey.balance_inj,
      MergeValue.change]
    by_cases gives : m.source = x ∧ m.amount.currency = c
    · rw [if_pos gives, if_pos gives]
      ring
    · rw [if_neg gives, if_neg gives]
      ring

theorem given_of_payer {moves : List Movement} (paid : ∀ m ∈ moves, m.source = payer) :
    given x c moves = if x = payer then
      ((amountsIn c (moves.map Movement.amount)).map Decimal.value).sum else 0 := by
  induction moves with
  | nil => exact (ite_self (0 : ℚ)).symm
  | cons m rest ih =>
    rw [given_cons, ih fun other member => paid other (List.mem_cons_of_mem _ member), List.map_cons,
      sum_amountsIn_cons, paid m List.mem_cons_self]
    by_cases own : x = payer
    · simp [own]
    · simp [own, Ne.symm own]

end Sums

section Moving
variable {α : Type} (source target : α → Address) (amounts : α → List Amount) (items : List α)

theorem moving_amounts :
    (moving source target amounts items).map Movement.amount = items.flatMap amounts := by
  simp [moving, List.map_flatMap, Function.comp_def]

theorem moving_credits : (moving source target amounts items).map Movement.credit =
    items.flatMap fun item => (amounts item).map (MergeValue.credit (target item)) := by
  simp [moving, List.map_flatMap, Function.comp_def, Movement.credit]

theorem moving_source (payer : Address) :
    ∀ m ∈ moving (fun _ => payer) target amounts items, m.source = payer := by
  intro m member
  obtain ⟨item, _, inside⟩ := List.mem_flatMap.mp member
  obtain ⟨amount, _, rfl⟩ := List.mem_map.mp inside
  rfl

end Moving

-- Values that carry out some movements: they come to them under every key, where the
-- amounts of the currency can be summed without rounding, and to nothing on the whole;
-- and no money goes to an account that does not take part in one.
structure Carries (moves : List Movement) (values : List MergeValue) : Prop where
  exact : ∀ c places, Decimal.Fits places (amountsIn c (moves.map Movement.amount)) → ∀ x,
    signedSum (StateKey.balance x c) values = received x c moves - given x c moves
  even : ∀ c places, Decimal.Fits places (amountsIn c (moves.map Movement.amount)) →
    netIn c values = 0
  within : ∀ value ∈ values, value.kind = .balance → ∃ m ∈ moves,
    value.key = StateKey.balance m.source m.amount.currency ∨
      value.key = StateKey.balance m.target m.amount.currency

namespace Carries
variable {moves : List Movement} {values more : List MergeValue}

theorem perm (carries : Carries moves values) (same : values.Perm more) : Carries moves more := by
  refine ⟨fun c places fits x => ?_, fun c places fits => ?_, fun value member => ?_⟩
  · rw [← signedSum_perm same, carries.exact c places fits]
  · rw [netIn, ← (same.map _).sum_eq, ← netIn, carries.even c places fits]
  · exact carries.within value (same.mem_iff.mpr member)

theorem after_sets {sets : List MergeValue} (plain : ∀ value ∈ sets, value.kind = .set)
    (carries : Carries moves values) : Carries moves (sets ++ values) := by
  have quiet : ∀ value ∈ sets, value.change = 0 ∧ ∀ c, value.changeIn c = 0 := by
    intro value member
    cases value with
    | set _ _ => exact ⟨rfl, fun _ => rfl⟩
    | credit _ _ => cases plain _ member
    | debit _ _ => cases plain _ member
  refine ⟨fun c places fits x => ?_, fun c places fits => ?_, fun value member balanced => ?_⟩
  · rw [signedSum_append, signedSum_quiet fun value member _ => (quiet value member).1, zero_add,
      carries.exact c places fits]
  · rw [netIn_append, netIn_quiet fun value member => (quiet value member).2 c, zero_add,
      carries.even c places fits]
  · rcases List.mem_append.mp member with set | own
    · rw [plain value set] at balanced
      cases balanced
    · exact carries.within value own balanced

end Carries

theorem totalsOf_listed {overflow : Currency → Overflow} {amounts : List Amount}
    {totals : Table Currency Decimal} (summed : totalsOf overflow amounts = .ok totals) :
    ∀ entry ∈ totals, ∃ amount ∈ amounts, amount.currency = entry.1 := by
  intro entry member
  have found := Table.find_of_mem (totalsOf_ok summed).1 member
  by_contra missing
  have none : amounts.filter (fun amount => amount.currency = entry.1) = [] :=
    List.filter_eq_nil_iff.mpr fun amount listed same =>
      missing ⟨amount, listed, of_decide_eq_true same⟩
  unfold totalsOf at summed
  rw [addTotal_update] at summed
  have folded := Table.foldlM_find summed entry.1
  rw [none, found] at folded
  cases folded

theorem carries_paid {payer : Address} {moves : List Movement} {overflow : Currency → Overflow}
    {totals : Table Currency Decimal} (paid : ∀ m ∈ moves, m.source = payer)
    (summed : totalsOf overflow (moves.map Movement.amount) = .ok totals) :
    Carries moves (moves.map Movement.credit ++ debitTotals payer totals) := by
  have debited (c : Currency) (places : Nat)
      (fits : Decimal.Fits places (amountsIn c (moves.map Movement.amount))) :
      ((amountsIn c (moves.map Movement.amount)).map Decimal.value).sum +
        netIn c (debitTotals payer totals) = 0 := by
    rw [paid_net payer summed, totalRounding_exact fits, neg_zero]
  refine ⟨fun c places fits x => ?_, fun c places fits => ?_, fun value member _ => ?_⟩
  · rw [signedSum_append, signedSum_credits, signedSum_debitTotals, given_of_payer paid]
    split
    · rw [eq_neg_of_add_eq_zero_left (debited c places fits), sub_neg_eq_add]
    · rw [add_zero, sub_zero]
  · have credits : netIn c (moves.map Movement.credit) =
        ((amountsIn c (moves.map Movement.amount)).map Decimal.value).sum := by
      have each : netIn c _ = _ := netIn_credits Movement.target (fun m => [m.amount]) moves
      simp only [List.map_singleton, ← List.map_eq_flatMap] at each
      exact each
    rw [netIn_append, credits, debited c places fits]
  · rcases List.mem_append.mp member with credit | debit
    · obtain ⟨m, listed, rfl⟩ := List.mem_map.mp credit
      exact ⟨m, listed, .inr rfl⟩
    · obtain ⟨entry, listed, rfl⟩ := List.mem_map.mp debit
      obtain ⟨amount, inside, same⟩ := totalsOf_listed summed entry listed
      obtain ⟨m, moved, rfl⟩ := List.mem_map.mp inside
      refine ⟨m, moved, .inl ?_⟩
      rw [paid m moved, same]
      rfl

section Facts
variable {values : List MergeValue}

theorem Transfer.effects_carry {f : Transfer} (written : f.effects = .ok values) :
    Carries (moving (fun _ => f.sender) Payment.party Payment.amounts f.items) values := by
  obtain ⟨totals, summed, rfl⟩ := Transfer.effects_ok written
  unfold allAmounts at summed
  rw [← moving_amounts (fun _ => f.sender) Payment.party] at summed
  rw [credits, ← moving_credits fun _ => f.sender]
  exact (carries_paid (moving_source _ _ _ _) summed).perm List.perm_append_comm

theorem fundingEffects_carry {sender : Address} {openings : List Opening}
    (funded : fundingEffects sender openings = .ok values) :
    Carries (moving (fun _ => sender) Opening.address (fun opening => opening.item.amounts)
      openings) values := by
  obtain ⟨totals, summed, rfl⟩ := fundingEffects_ok funded
  unfold openingAmounts at summed
  rw [← moving_amounts (fun _ => sender) Opening.address] at summed
  rw [← moving_credits fun _ => sender]
  exact carries_paid (moving_source _ _ _ _) summed

theorem CreateAccount.effects_carry {f : CreateAccount} (written : f.effects = .ok values) :
    Carries (moving (fun _ => f.sender) Opening.address (fun opening => opening.item.amounts)
      f.openings) values := by
  unfold CreateAccount.effects at written
  simp only [bind_ok, pure_ok] at written
  obtain ⟨funding, funded, rfl⟩ := written
  refine (fundingEffects_carry funded).after_sets fun value member => ?_
  obtain ⟨opening, _, rfl⟩ := List.mem_map.mp member
  rfl

theorem CreateContract.effects_carry {f : CreateContract} (written : f.effects = .ok values) :
    Carries (moving (fun _ => f.sender) Opening.address (fun opening => opening.item.amounts)
      f.openings) values := by
  unfold CreateContract.effects at written
  simp only [bind_ok, pure_ok] at written
  obtain ⟨funding, funded, rfl⟩ := written
  refine (fundingEffects_carry funded).after_sets fun value member => ?_
  obtain ⟨opening, _, pair⟩ := List.mem_flatMap.mp member
  rcases List.mem_cons.mp pair with rfl | second
  · rfl
  · rw [List.mem_singleton.mp second]
    rfl

theorem Withdraw.effects_carry (f : Withdraw) :
    Carries (moving Payment.party (fun _ => f.sender) Payment.amounts f.items) f.effects := by
  have pairs : f.effects = (moving Payment.party (fun _ => f.sender) Payment.amounts
      f.items).flatMap fun m => [m.debit, m.credit] := by
    simp [effects, moving, List.flatMap_assoc, List.flatMap_map, Movement.debit, Movement.credit]
  refine ⟨fun c _ _ x => ?_, fun c _ _ => effects_net f, fun value member _ => ?_⟩
  · rw [pairs, signedSum_moved]
  · rw [pairs] at member
    obtain ⟨m, listed, pair⟩ := List.mem_flatMap.mp member
    rcases List.mem_cons.mp pair with rfl | second
    · exact ⟨m, listed, .inl rfl⟩
    · rw [List.mem_singleton.mp second]
      exact ⟨m, listed, .inr rfl⟩

theorem Fact.ownEffects_carry {fact : Fact} {moves : List Movement} {reader : Reader}
    (moved : fact.movements? = some moves) (written : fact.ownEffects reader = .ok values) :
    Carries moves values := by
  cases fact with
  | transfer f =>
    cases moved
    exact Transfer.effects_carry (lift_ok.mp written)
  | createAccount f =>
    cases moved
    exact CreateAccount.effects_carry (lift_ok.mp written)
  | createContract f =>
    cases moved
    exact CreateContract.effects_carry (lift_ok.mp written)
  | withdraw f =>
    cases moved
    cases written
    exact Withdraw.effects_carry f
  | _ => cases moved

theorem Fact.feeTerms_of_movements {fact : Fact} {moves : List Movement}
    (moved : fact.movements? = some moves) : ∃ terms, fact.feeTerms? = some terms ∧
      terms.base = FeeBase.ofAmounts (moves.map Movement.amount) := by
  cases fact with
  | transfer f | createAccount f | createContract f | withdraw f =>
    cases moved
    exact ⟨_, rfl, by rw [moving_amounts]; rfl⟩
  | _ => cases moved

end Facts

end SignedLedger

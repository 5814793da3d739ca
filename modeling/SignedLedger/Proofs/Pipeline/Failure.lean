import SignedLedger.Pipeline.Authorization
import SignedLedger.Proofs.Failure
import SignedLedger.Proofs.Pipeline.Consistency
import SignedLedger.Proofs.Pipeline.Fee

-- What the stages of the pipeline fail with, the claims and the choice of a processor
-- apart. Each of them stays within the same few failures.
namespace SignedLedger
open Check

-- The failures that stages come to in the course of their work: a rejection that is not
-- about claims, a read that fails, a policy that a currency must not have, and numbers
-- that do not fit.
inductive Failure.Expected (reader : Reader) : Failure → Prop where
  | refusal {reason : Reason} (apart : reason.kind ≠ .duplicated) :
      Expected reader (.rejected reason)
  | trouble {fault : Fault} (met : reader.Trouble fault) : Expected reader (.failed fault)
  | policy {currency : Currency} {design : CurrencyDesign} {violation : Violation}
      (stored : Lookup.currencyDesign reader currency = .ok (some design))
      (refused : design.policy.validate = .error (.invariant violation)) :
      Expected reader (.failed (.invariant violation))
  | overflow (overflow : Overflow) : Expected reader (.failed (.arithmetic overflow))

section Reads
open Failure
variable {α : Type} {reader : Reader}

theorem require_expected {holds : Bool} {kind : ReasonKind} {message : String}
    (apart : kind ≠ .duplicated) : FailsOnly (Expected reader) (require holds kind message) :=
  FailsOnly.require fun _ => .refusal apart

theorem read_expected {found : Except Fault α}
    (met : ∀ {fault}, found = .error fault → reader.Trouble fault) :
    FailsOnly (Expected reader) (liftM found : Check α) :=
  FailsOnly.lift fun _ failed => .trouble (met failed)

theorem existing_expected {found : Except Fault (Option α)} {missing : String}
    (met : ∀ {fault}, found = .error fault → reader.Trouble fault) :
    FailsOnly (Expected reader) (Lookup.existing found missing) :=
  FailsOnly.existing (fun _ => .refusal nofun) fun _ failed => .trouble (met failed)

theorem existingAccount_expected {a : Address} :
    FailsOnly (Expected reader) (Lookup.existingAccount reader a) :=
  existing_expected Lookup.account_trouble

theorem existingBalance_expected {a : Address} {c : Currency} :
    FailsOnly (Expected reader) (Lookup.existingBalance reader a c) :=
  existing_expected Lookup.balance_trouble

theorem existingCurrencyDesign_expected {c : Currency} :
    FailsOnly (Expected reader) (Lookup.existingCurrencyDesign reader c) :=
  existing_expected Lookup.currencyDesign_trouble

theorem existingContractStatus_expected {a : Address} :
    FailsOnly (Expected reader) (Lookup.existingContractStatus reader a) :=
  existing_expected Lookup.contractStatus_trouble

theorem existingDidDesign_expected {c : Address} :
    FailsOnly (Expected reader) (Lookup.existingDidDesign reader c) :=
  existing_expected Lookup.didDesign_trouble

theorem existingDidDocument_expected {c : Address} {did : String} :
    FailsOnly (Expected reader) (Lookup.existingDidDocument reader c did) :=
  existing_expected Lookup.didDocument_trouble

theorem ensureNotContract_expected {a : Address} :
    FailsOnly (Expected reader) (Lookup.ensureNotContract reader a) := by
  apply FailsOnly.bind (read_expected Lookup.contractStatus_trouble)
  intro _ _
  exact require_expected nofun

theorem ensureAccountAbsent_expected {a : Address} :
    FailsOnly (Expected reader) (Lookup.ensureAccountAbsent reader a) := by
  apply FailsOnly.bind (read_expected .failing)
  intro _ _
  exact require_expected nofun

end Reads

section Authorization
open Failure
variable {network : NetworkId} {op : Operation} {reader : Reader}

theorem checkThreshold_expected {account : Account} :
    FailsOnly (Expected reader) (checkThreshold network op account) := by
  unfold checkThreshold
  split
  · exact FailsOnly.reject (.refusal nofun)
  · exact require_expected nofun

theorem verify_expected {proof : Authentication} :
    FailsOnly (Expected reader) (proof.verify network op reader) := by
  unfold Authentication.verify
  apply FailsOnly.bind existingDidDocument_expected
  intro document _
  apply FailsOnly.bind (require_expected (by decide))
  intro _ _
  split
  · exact FailsOnly.reject (.refusal nofun)
  · apply FailsOnly.bind (require_expected (by decide))
    intro _ _
    exact FailsOnly.ok document

theorem verifySettlement_expected {sender : Address} :
    FailsOnly (Expected reader) (verifySettlement network op reader sender) := by
  apply FailsOnly.bind existingAccount_expected
  intro _ _
  exact checkThreshold_expected

theorem verifyProxyPayer_expected {proxy sender : Address} :
    FailsOnly (Expected reader) (verifyProxyPayer reader proxy sender) := by
  apply FailsOnly.bind existingContractStatus_expected
  intro _ _
  apply FailsOnly.bind (require_expected (by decide))
  intro _ _
  exact require_expected nofun

theorem verifyPayment_expected :
    FailsOnly (Expected reader) (verifyPayment network op reader) := by
  unfold verifyPayment
  split
  · exact verifySettlement_expected
  · apply FailsOnly.bind verifySettlement_expected
    intro _ _
    exact verifyProxyPayer_expected
  · exact FailsOnly.reject (.refusal nofun)
  · exact FailsOnly.ok ()

theorem authorizeSigner_expected (signed : op.fact.signer?.isSome = true) :
    FailsOnly (Expected reader) (authorizeSigner network op reader) := by
  unfold authorizeSigner
  split
  · apply FailsOnly.bind verify_expected
    intro _ _
    exact FailsOnly.ok ()
  · split
    · rename_i unsigned
      rw [unsigned] at signed
      cases signed
    · apply FailsOnly.bind existingAccount_expected
      intro _ _
      exact checkThreshold_expected

theorem authorize_expected (signed : op.fact.signer?.isSome = true) :
    FailsOnly (Expected reader) (authorize network op reader) := by
  apply FailsOnly.bind (authorizeSigner_expected signed)
  intro _ _
  exact verifyPayment_expected

theorem checkUser_expected {user : Address} :
    FailsOnly (Expected reader) (checkUser op reader user) := by
  apply FailsOnly.bind existingAccount_expected
  intro _ _
  apply FailsOnly.bind ensureNotContract_expected
  intro _ _
  split
  · apply FailsOnly.bind existingDidDocument_expected
    intro _ _
    exact require_expected nofun
  · exact require_expected nofun

theorem checkAccess_expected {access : ContractAccess} :
    FailsOnly (Expected reader) (checkAccess reader access) := by
  apply FailsOnly.bind existingContractStatus_expected
  intro _ _
  apply FailsOnly.bind (require_expected (by decide))
  intro _ _
  exact require_expected nofun

theorem checkActive_expected {contract : Address} :
    FailsOnly (Expected reader) (checkActive reader contract) := by
  apply FailsOnly.bind existingContractStatus_expected
  intro _ _
  exact require_expected nofun

end Authorization

section Fees
open Failure
variable {reader : Reader} {fault : Fault}

def Violation.OfPolicy : Violation → Prop
  | .negativeFee _ | .ratioOutside _ | .boundsCross _ _ => True
  | _ => False

theorem FeeRule.validate_fault {rule : FeeRule} (failed : rule.validate = .error fault) :
    ∃ violation : Violation, fault = .invariant violation ∧ violation.OfPolicy := by
  unfold validate at failed
  split at failed
  · cases failed
  · split at failed
    · cases failed
      exact ⟨_, rfl, trivial⟩
    · cases failed
  · split at failed
    · cases failed
      exact ⟨_, rfl, trivial⟩
    · split at failed
      · cases failed
        exact ⟨_, rfl, trivial⟩
      · cases failed

theorem FeeRule.charge_fault {rule : FeeRule} {amount : Decimal} (valid : rule.validate = .ok ())
    (failed : rule.charge amount = .error fault) : ∃ overflow, fault = .arithmetic overflow := by
  unfold charge at failed
  split at failed
  · cases failed
  · cases failed
  · rw [valid] at failed
    simp only [Bind.bind, Except.bind] at failed
    split at failed
    · cases failed
      exact ⟨_, rfl⟩
    · cases failed

theorem addFee_fault {a b : Decimal} (failed : addFee a b = .error fault) :
    ∃ overflow, fault = .arithmetic overflow := by
  unfold addFee at failed
  split at failed
  · cases failed
  · cases failed
    exact ⟨_, rfl⟩

namespace CurrencyPolicy
variable {policy : CurrencyPolicy}

theorem validate_fault (failed : policy.validate = .error fault) :
    ∃ violation : Violation, fault = .invariant violation ∧ violation.OfPolicy := by
  unfold validate at failed
  rcases bind_error.mp failed with flat | ⟨_, _, item⟩
  · exact FeeRule.validate_fault flat
  · split at item
    · exact FeeRule.validate_fault item
    · cases item

theorem itemFees_fault {rule : FeeRule} {items : List Decimal} (valid : rule.validate = .ok ())
    (failed : itemFees rule items = .error fault) : ∃ overflow, fault = .arithmetic overflow := by
  obtain ⟨_, item, _, sum, _, _, stopped⟩ := foldlM_error failed
  rcases bind_error.mp stopped with single | ⟨_, _, added⟩
  · exact FeeRule.charge_fault valid single
  · exact addFee_fault added

theorem feeOn_fault {items : List Decimal} (valid : policy.validate = .ok ())
    (failed : policy.feeOn items = .error fault) : ∃ overflow, fault = .arithmetic overflow := by
  obtain ⟨flat, item⟩ := validate_parts valid
  unfold feeOn at failed
  rcases bind_error.mp failed with total | ⟨total, _, failed⟩
  · obtain ⟨_, _, _, _, _, _, added⟩ := foldlM_error total
    exact addFee_fault added
  · split at failed
    · exact FeeRule.charge_fault flat failed
    · rename_i rule given
      rcases bind_error.mp failed with each | ⟨fee, _, failed⟩
      · exact itemFees_fault (item rule given) each
      · split at failed
        · cases failed
        · rcases bind_error.mp failed with whole | ⟨_, _, added⟩
          · exact FeeRule.charge_fault flat whole
          · exact addFee_fault added

end CurrencyPolicy

theorem chargeIn_expected {payer : Address} {currency : Currency} {items : List Decimal} :
    FailsOnly (Expected reader) (chargeIn reader payer currency items) := by
  apply FailsOnly.bind existingCurrencyDesign_expected
  intro design found
  have stored : Lookup.currencyDesign reader currency = .ok (some design) := existing_ok.mp found
  apply FailsOnly.bind
  · apply FailsOnly.lift
    intro fault failed
    obtain ⟨violation, rfl, _⟩ := CurrencyPolicy.validate_fault failed
    exact .policy stored failed
  intro _ valid
  apply FailsOnly.bind
  · apply FailsOnly.lift
    intro fault failed
    obtain ⟨overflow, rfl⟩ := CurrencyPolicy.feeOn_fault (lift_ok.mp valid) failed
    exact .overflow overflow
  intro fee _
  split
  · exact FailsOnly.ok none
  · exact FailsOnly.ok _

theorem chargesIn_expected {payer : Address} {base : FeeBase} :
    FailsOnly (Expected reader) (chargesIn reader payer base) := by
  induction base with
  | nil => exact FailsOnly.ok []
  | cons entry rest ih =>
    apply FailsOnly.bind chargeIn_expected
    intro _ _
    apply FailsOnly.bind ih
    intro _ _
    exact FailsOnly.ok _

theorem charges_expected {op : Operation} : FailsOnly (Expected reader) (op.charges reader) := by
  unfold Operation.charges
  split
  · exact FailsOnly.ok []
  · exact chargesIn_expected

theorem checkAffordable_expected {op : Operation} :
    FailsOnly (Expected reader) (op.checkAffordable reader) := by
  apply FailsOnly.bind charges_expected
  intro charges _
  apply FailsOnly.forM
  intro charge _
  apply FailsOnly.bind existingBalance_expected
  intro _ _
  exact require_expected nofun

inductive Failure.Unsettled (reader : Reader) (charges : List FeeCharge) : Failure → Prop where
  | payer {charge : FeeCharge} {message : String} (listed : charge ∈ charges)
      (absent : Lookup.balance reader charge.payer charge.amount.currency = .ok none) :
      Unsettled reader charges (.rejected ⟨.stateNotFound, message⟩)
  | receiver {charge : FeeCharge} {receiver : Address} (listed : charge ∈ charges)
      (received : charge.receiver = some receiver)
      (absent : Lookup.account reader receiver = .ok none) :
      Unsettled reader charges (.rejected ⟨.stateNotFound, s!"account {receiver} not found"⟩)
  | trouble {fault : Fault} (met : reader.Trouble fault) : Unsettled reader charges (.failed fault)

theorem Failure.Unsettled.expected {charges : List FeeCharge} {failure : Failure}
    (unsettled : failure.Unsettled reader charges) : failure.Expected reader := by
  cases unsettled with
  | payer _ _ => exact .refusal nofun
  | receiver _ _ _ => exact .refusal nofun
  | trouble met => exact .trouble met

theorem settleCharge_unsettled {charges : List FeeCharge} {charge : FeeCharge}
    (listed : charge ∈ charges) :
    FailsOnly (Unsettled reader charges) (settleCharge reader charge) := by
  apply FailsOnly.bind
  · exact FailsOnly.existing (.payer listed) fun _ failed => .trouble (Lookup.balance_trouble failed)
  intro _ _
  split
  · exact FailsOnly.ok _
  · rename_i receiver received
    apply FailsOnly.bind
    · exact FailsOnly.existing (.receiver listed received)
        fun _ failed => .trouble (Lookup.account_trouble failed)
    intro _ _
    exact FailsOnly.ok _

theorem settleCharges_unsettled {charges settled : List FeeCharge}
    (within : ∀ charge ∈ settled, charge ∈ charges) :
    FailsOnly (Unsettled reader charges) (settleCharges reader settled) := by
  induction settled with
  | nil => exact FailsOnly.ok []
  | cons charge rest ih =>
    apply FailsOnly.bind (settleCharge_unsettled (within charge List.mem_cons_self))
    intro _ _
    apply FailsOnly.bind (ih fun other later => within other (List.mem_cons_of_mem _ later))
    intro _ _
    exact FailsOnly.ok _

theorem feeValues_expected {op : Operation} :
    FailsOnly (Expected reader) (op.feeValues reader) := by
  apply FailsOnly.bind charges_expected
  intro charges _
  exact (settleCharges_unsettled fun _ listed => listed).mono fun _ => Unsettled.expected

end Fees

theorem checkCapabilities_expected {op : Operation} {reader : Reader} :
    FailsOnly (Failure.Expected reader) (checkCapabilities op reader) := by
  apply FailsOnly.bind checkAffordable_expected
  intro _ _
  apply FailsOnly.bind (FailsOnly.optionForM fun _ _ => checkUser_expected)
  intro _ _
  apply FailsOnly.bind (FailsOnly.forM fun _ _ => checkAccess_expected)
  intro _ _
  exact FailsOnly.forM fun _ _ => checkActive_expected

section Balances
open Failure
variable {reader : Reader} {values : List MergeValue} {fault : Fault}

def MoneyOnly (values : List MergeValue) : Prop :=
  ∀ key value, .set key value ∈ values → StateKey.isBalance key = false

theorem MoneyOnly.change (money : MoneyOnly values) {value : MergeValue} (listed : value ∈ values)
    (named : StateKey.isBalance value.key = true) :
    (∃ a c, value.key = StateKey.balance a c) ∧ ∃ change, signedChange value.value = .ok change := by
  cases value with
  | set key _ =>
    have other := money key _ listed
    rw [show StateKey.isBalance key = true from named] at other
    cases other
  | credit a amount => exact ⟨⟨a, amount.currency, rfl⟩, amount.value, rfl⟩
  | debit a amount => exact ⟨⟨a, amount.currency, rfl⟩, amount.value.neg, rfl⟩

theorem balanceDeltas_fault (money : MoneyOnly values)
    (failed : balanceDeltas values = .error fault) : ∃ overflow, fault = .arithmetic overflow := by
  obtain ⟨before, value, after, deltas, rfl, _, stopped⟩ := foldlM_error failed
  unfold addDelta at stopped
  split at stopped
  · rename_i named
    obtain ⟨_, change, signed⟩ := money.change (by simp) named
    rw [signed] at stopped
    simp only [Bind.bind, Except.bind] at stopped
    split at stopped
    · cases stopped
    · cases stopped
      exact ⟨_, rfl⟩
  · cases stopped

theorem balanceDeltas_key (money : MoneyOnly values) {deltas : Deltas}
    (summed : balanceDeltas values = .ok deltas) :
    ∀ entry ∈ deltas, ∃ a c, entry.1 = StateKey.balance a c := by
  intro entry listed
  have found := Table.find_of_mem (balanceDeltas_ascending summed) listed
  have folded := balanceDeltas_fold summed entry.1
  rw [found] at folded
  split at folded
  · rename_i named
    cases values' : under entry.1 values with
    | nil =>
      rw [values'] at folded
      cases folded
    | cons value rest =>
      obtain ⟨inside, same⟩ := mem_under.mp (values' ▸ List.mem_cons_self : value ∈ under entry.1 values)
      rw [← same] at named ⊢
      exact (money.change inside named).1
  · cases folded

inductive Failure.Shortfall (reader : Reader) : Failure → Prop where
  | short (message : String) : Shortfall reader (.rejected ⟨.insufficientBalance, message⟩)
  | overflow (overflow : Overflow) : Shortfall reader (.failed (.arithmetic overflow))
  | trouble {fault : Fault} (met : reader.Trouble fault) : Shortfall reader (.failed fault)

theorem Failure.Shortfall.expected {failure : Failure} (shortfall : failure.Shortfall reader) :
    failure.Expected reader := by
  cases shortfall with
  | short _ => exact .refusal nofun
  | overflow overflow => exact .overflow overflow
  | trouble met => exact .trouble met

theorem resultingBalance_fault {a : Address} {c : Currency} {delta : Decimal}
    (failed : resultingBalance reader (StateKey.balance a c) delta = .error fault) :
    Shortfall reader (.failed fault) := by
  unfold resultingBalance at failed
  rcases bind_error.mp failed with unread | ⟨stored, _, failed⟩
  · exact .trouble (Lookup.balance_trouble unread)
  · dsimp only at failed
    split at failed
    · cases failed
    · cases failed
      exact .overflow _

theorem checkDelta_shortfall {a : Address} {c : Currency} {delta : Decimal} :
    FailsOnly (Shortfall reader) (checkDelta reader (StateKey.balance a c, delta)) := by
  apply FailsOnly.bind
  · exact FailsOnly.lift fun _ failed => resultingBalance_fault failed
  intro result _
  dsimp only
  split
  · rw [StateKey.readBalance_balance]
    exact FailsOnly.reject (.short _)
  · exact FailsOnly.ok ()

theorem checkBalances_shortfall (money : MoneyOnly values) :
    FailsOnly (Shortfall reader) (checkBalances reader values) := by
  apply FailsOnly.bind
  · apply FailsOnly.lift
    intro fault failed
    obtain ⟨overflow, rfl⟩ := balanceDeltas_fault money failed
    exact .overflow overflow
  intro deltas summed
  apply FailsOnly.forM
  intro entry listed
  obtain ⟨key, delta⟩ := entry
  obtain ⟨a, c, rfl⟩ := balanceDeltas_key money (lift_ok.mp summed) _ listed
  exact checkDelta_shortfall

end Balances
end SignedLedger

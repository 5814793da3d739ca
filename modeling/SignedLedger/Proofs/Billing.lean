import SignedLedger.Proofs.Pipeline.Authorization
import SignedLedger.Proofs.Pipeline.Fee
import SignedLedger.Proofs.Sample
import SignedLedger.Proofs.Session.Answers

-- Who is billed for an admitted operation. All its fees come out of one account:
-- one that has signed, or a contract that serves the account that settles.
namespace SignedLedger
open Check
variable {network : NetworkId} {reader : Reader} {op : Operation}

structure ServedBy (network : NetworkId) (reader : Reader) (op : Operation)
    (payer sender : Address) : Prop where
  settled : op.extensions.settlement = some sender
  signed : MeetsThreshold network reader op sender
  serving : ∃ status, Lookup.contractStatus reader payer = .ok (some status) ∧
    status.isActive = true ∧ (status.owner = sender ∨ sender ∈ status.handlers)

def MayBill (network : NetworkId) (reader : Reader) (op : Operation) (payer : Address) : Prop :=
  MeetsThreshold network reader op payer ∨ ∃ sender, ServedBy network reader op payer sender

theorem ContractStatus.admits_iff {status : ContractStatus} {actor : Address} :
    status.admits actor = true ↔ status.owner = actor ∨ actor ∈ status.handlers := by
  simp [ContractStatus.admits]

theorem Fact.payer_of_kind {fact : Fact} {kind : FactKind} {terms : FeeTerms}
    (builtIn : fact.kind? = some kind) (charged : fact.feeTerms? = some terms) :
    fact.signer? = some terms.payer := by
  cases fact with
  | declared f => cases builtIn
  | candidate f => cases charged
  | _ =>
    cases charged
    rfl

-- The precedence of the payers meets the checks on them case by case. Without a
-- settlement nothing stands in for the signer, who is the payer of the fact.
theorem checkEntry_payer
    (own : ∀ terms, op.fact.feeTerms? = some terms → op.fact.signer? = some terms.payer)
    (entered : checkEntry network op reader = .ok ()) :
    ∃ payer, MayBill network reader op payer ∧
      ∀ terms, op.fact.feeTerms? = some terms → op.payer terms = payer := by
  obtain ⟨authorized, payment, _⟩ := checkEntry_parts entered
  obtain ⟨settling, proxying⟩ := verifyPayment_parts payment
  unfold Operation.payer
  cases settled : op.extensions.settlement with
  | none =>
    rcases authorizeSigner_parts authorized with
      ⟨signer, acting, _, signed⟩ | ⟨_, _, payer, _, settlement, _⟩
    · refine ⟨signer, .inl signed, fun terms charged => ?_⟩
      have same := own terms charged
      rw [acting] at same
      exact (Option.some.inj same).symm
    · rw [settled] at settlement
      cases settlement
  | some sender =>
    have signed := settling sender settled
    cases proxied : op.extensions.proxyPayer with
    | none => exact ⟨sender, .inl signed, fun _ _ => rfl⟩
    | some proxy =>
      obtain ⟨other, status, same, found, active, admits⟩ := proxying proxy proxied
      rw [settled] at same
      cases same
      have serving := ContractStatus.admits_iff.mp admits
      exact ⟨proxy, .inr ⟨sender, settled, signed, status, found, active, serving⟩, fun _ _ => rfl⟩

theorem Operation.charges_payer {charges : List FeeCharge}
    (found : op.charges reader = .ok charges) :
    ∀ charge ∈ charges, ∃ terms, op.fact.feeTerms? = some terms ∧
      charge.payer = op.payer terms := by
  unfold Operation.charges at found
  intro charge member
  split at found
  · cases found
    cases member
  · rename_i terms given
    exact ⟨terms, given, (chargesIn_sound found charge member).payer_eq⟩

theorem feeEffects_debit {charge : FeeCharge} {a : Address} {amount : Amount}
    (taken : .debit a amount ∈ feeEffects charge) : a = charge.payer := by
  unfold feeEffects at taken
  rcases List.mem_cons.mp taken with same | credit
  · cases same
    rfl
  · split at credit
    · cases credit
    · split at credit
      · cases credit
      · cases List.mem_singleton.mp credit

theorem Operation.feeValues_payer {values : List MergeValue} {a : Address} {amount : Amount}
    (settled : op.feeValues reader = .ok values) (taken : .debit a amount ∈ values) :
    ∃ terms, op.fact.feeTerms? = some terms ∧ a = op.payer terms := by
  obtain ⟨charges, found, rfl⟩ := Operation.feeValues_ok settled
  obtain ⟨charge, member, inside⟩ := List.mem_flatMap.mp taken
  obtain ⟨terms, given, payer⟩ := Operation.charges_payer found charge member
  exact ⟨terms, given, (feeEffects_debit inside).trans payer⟩

-- All fees of an admitted operation are taken from one account that its signs open,
-- or from an active contract that serves the signed account that settles.
theorem fees_billed_with_consent {e : Engine} {s : Session} {ctx : Context} {kind : FactKind}
    {values : List MergeValue} (builtIn : op.fact.kind? = some kind)
    (admitted : (e.preProcess s ctx op reader).answer = .ok .admitted)
    (settled : op.feeValues reader = .ok values) :
    ∃ payer, MayBill e.settings.network reader op payer ∧
      ∀ a amount, .debit a amount ∈ values → a = payer := by
  obtain ⟨result, _⟩ := Engine.preProcess_admitted admitted
  obtain ⟨_, _, _, _, _, _, _, _, entered, _⟩ := Engine.runPreProcess_ok result
  obtain ⟨payer, consent, paying⟩ :=
    checkEntry_payer (fun _ charged => Fact.payer_of_kind builtIn charged) entered
  refine ⟨payer, consent, fun a amount taken => ?_⟩
  obtain ⟨terms, charged, paid⟩ := Operation.feeValues_payer settled taken
  exact paid.trans (paying terms charged)

def proxyLedger : Store :=
  Sample.store [Sample.coins (.fixed Sample.bob (Sample.decimal 1 0)),
    Sample.held Sample.alice Sample.key, Sample.held Sample.bob Sample.key,
    .contract Sample.carol ⟨Sample.bob, true, []⟩, .balance Sample.alice (Sample.amount 100 0),
    .balance Sample.carol (Sample.amount 5 0)]

def proxyPayment : Operation :=
  Sample.pay Sample.alice [⟨Sample.bob, [Sample.amount 10 0]⟩]
    ⟨none, some Sample.bob, some Sample.carol⟩

def proxyFees : List MergeValue :=
  [.debit Sample.carol (Sample.amount 1 0), .credit Sample.bob (Sample.amount 1 0)]

def proxyCall : Call Admission :=
  Sample.engine.preProcess (Sample.engine.checkout ⟨2⟩ none).1 Context.active proxyPayment
    proxyLedger.reader

set_option maxRecDepth 100000 in
theorem proxy_run :
    proxyCall.answer = .ok .admitted ∧
      proxyPayment.feeValues proxyLedger.reader = .ok proxyFees := by
  decide +kernel

theorem fees_billed_to_proxy :
    (proxyPayment.fact.kind? = some .transfer ∧ proxyCall.answer = .ok .admitted ∧
        proxyPayment.feeValues proxyLedger.reader = .ok proxyFees) ∧
      MayBill Sample.network proxyLedger.reader proxyPayment Sample.carol := by
  obtain ⟨admitted, settled⟩ := proxy_run
  refine ⟨⟨rfl, admitted, settled⟩, ?_⟩
  obtain ⟨payer, consent, paid⟩ :=
    fees_billed_with_consent (rfl : proxyPayment.fact.kind? = some .transfer) admitted settled
  have carol := paid Sample.carol _ List.mem_cons_self
  exact carol ▸ consent

end SignedLedger

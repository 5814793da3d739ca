import SignedLedger.Proofs.Pipeline.Authorization
import SignedLedger.Proofs.Sample
import SignedLedger.Proofs.Session.Answers

-- Who has agreed to an operation that is admitted. The signer of a fact has agreed
-- by its signs or by a proof from its own document. Where a fact names no user,
-- nobody asks whose document the proof is from.
namespace SignedLedger
open Check
variable {network : NetworkId} {reader : Reader} {op : Operation}

def Consents (network : NetworkId) (reader : Reader) (op : Operation) (a : Address) : Prop :=
  MeetsThreshold network reader op a ∨
    ∃ proof document, op.extensions.authentication = some proof ∧
      proof.Proves network reader op document ∧ document.controller = a

-- A payer has signed, and a foreign document stands in for the signer.
structure Impersonated (network : NetworkId) (reader : Reader) (op : Operation) (a : Address) :
    Prop where
  unasked : op.fact.user? = none
  unsigned : ¬ MeetsThreshold network reader op a
  foreign : ∃ proof payer document, op.extensions.authentication = some proof ∧
    op.extensions.settlement = some payer ∧ MeetsThreshold network reader op payer ∧
    proof.Proves network reader op document ∧ document.controller ≠ a

theorem Fact.signer_of_kind {fact : Fact} {kind : FactKind} (builtIn : fact.kind? = some kind) :
    ∃ signer, fact.signer? = some signer ∧ ∀ user, fact.user? = some user → user = signer := by
  cases fact with
  | transfer f => exact ⟨f.sender, rfl, nofun⟩
  | createAccount f => exact ⟨f.sender, rfl, nofun⟩
  | createContract f => exact ⟨f.sender, rfl, nofun⟩
  | withdraw f => exact ⟨f.sender, rfl, nofun⟩
  | registerModel f => exact ⟨f.sender, rfl, nofun⟩
  | createDid f => exact ⟨f.sender, rfl, fun _ same => (Option.some.inj same).symm⟩
  | updateDocument f => exact ⟨f.sender, rfl, fun _ same => (Option.some.inj same).symm⟩
  | candidate f => exact ⟨f.candidate, rfl, nofun⟩
  | declared f => cases builtIn

theorem Impersonated.no_consent {a : Address} (used : Impersonated network reader op a) :
    ¬ Consents network reader op a := by
  obtain ⟨proof, _, document, attached, _, _, proves, apart⟩ := used.foreign
  rintro (signed | ⟨other, found, attached', proves', own⟩)
  · exact used.unsigned signed
  · rw [attached] at attached'
    cases attached'
    have same := proves.stored.symm.trans proves'.stored
    cases same
    exact apart own

theorem checkEntry_consent {a : Address} (acting : op.fact.signer? = some a)
    (asked : ∀ user, op.fact.user? = some user → user = a)
    (entered : checkEntry network op reader = .ok ()) :
    Consents network reader op a ∨ Impersonated network reader op a := by
  obtain ⟨authorized, payment, capabilities⟩ := checkEntry_parts entered
  rcases authorizeSigner_parts authorized with
    ⟨signer, same, _, signed⟩ | ⟨proof, document, payer, attached, settled, proves⟩
  · rw [acting] at same
    cases same
    exact .inl (.inl signed)
  · by_cases own : document.controller = a
    · exact .inl (.inr ⟨proof, document, attached, proves, own⟩)
    · by_cases signed : MeetsThreshold network reader op a
      · exact .inl (.inl signed)
      · refine .inr ⟨?_, signed, proof, payer, document, attached, settled,
          (verifyPayment_parts payment).1 payer settled, proves, own⟩
        -- A named user would have to control the document.
        cases named : op.fact.user? with
        | none => rfl
        | some user =>
          cases asked user named
          obtain ⟨_, users, _⟩ := checkCapabilities_parts capabilities
          obtain ⟨_, _, controlled, _⟩ := checkUser_parts (users a named)
          obtain ⟨found, stored, control⟩ := controlled proof attached
          have same := proves.stored.symm.trans stored
          cases same
          exact absurd control own

-- The signer of an admitted operation has agreed, except exactly where a payer
-- used a proof from a document that is not the signer's, for a fact without user.
theorem admitted_without_consent_exact {e : Engine} {s : Session} {ctx : Context}
    {kind : FactKind} (builtIn : op.fact.kind? = some kind)
    (admitted : (e.preProcess s ctx op reader).answer = .ok .admitted) :
    ∃ signer, op.fact.signer? = some signer ∧
      (¬ Consents e.settings.network reader op signer ↔
        Impersonated e.settings.network reader op signer) := by
  obtain ⟨signer, acting, asked⟩ := Fact.signer_of_kind builtIn
  obtain ⟨result, _⟩ := Engine.preProcess_admitted admitted
  obtain ⟨_, _, _, _, _, _, _, _, entered, _⟩ := Engine.runPreProcess_ok result
  refine ⟨signer, acting, fun refused => ?_, Impersonated.no_consent⟩
  rcases checkEntry_consent acting asked entered with agreed | used
  · exact absurd agreed refused
  · exact used

def forgeryLedger : Store :=
  Sample.store [Sample.coins .free, Sample.held Sample.alice Sample.strange,
    Sample.held Sample.bob Sample.key, .balance Sample.alice (Sample.amount 100 0),
    .did Sample.carol ⟨Sample.bob, "did:ledger:bob01"⟩
      ⟨"did:ledger:bob01", Sample.bob, true, [⟨"did:ledger:bob01#auth-key-1", Sample.key⟩]⟩]

def forgery : Operation :=
  Sample.pay Sample.alice [⟨Sample.bob, [Sample.amount 10 0]⟩]
    ⟨some ⟨Sample.carol, "did:ledger:bob01", "did:ledger:bob01#auth-key-1", Sample.signature⟩,
      some Sample.bob, none⟩

def forgeryCall : Call Admission :=
  Sample.engine.preProcess (Sample.engine.checkout ⟨2⟩ none).1 Context.active forgery
    forgeryLedger.reader

set_option maxRecDepth 100000 in
theorem forgery_run :
    forgeryCall.answer = .ok .admitted ∧
      Lookup.account forgeryLedger.reader Sample.alice =
        .ok (some (Account.withKeys Sample.alice (AccountKeys.single Sample.strange))) ∧
      weightOfKeys (AccountKeys.single Sample.strange)
        (forgery.verifiedSigners Sample.network) = 0 ∧
      (Lookup.didDocument forgeryLedger.reader Sample.carol "did:ledger:bob01").map
        (Option.map DidDocument.controller) = .ok (some Sample.bob) := by
  decide +kernel

theorem forgery_unsigned :
    ¬ MeetsThreshold Sample.network forgeryLedger.reader forgery Sample.alice := by
  obtain ⟨_, stored, weight, _⟩ := forgery_run
  rintro ⟨account, keys, found, opens, reached⟩
  rw [stored] at found
  cases found
  cases opens
  rw [weight] at reached
  exact absurd reached (by decide)

theorem forgery_unproven {proof : Authentication} {document : DidDocument}
    (attached : forgery.extensions.authentication = some proof)
    (stored : Lookup.didDocument forgeryLedger.reader proof.contract proof.did =
      .ok (some document)) : document.controller = Sample.bob := by
  obtain ⟨_, _, _, controlled⟩ := forgery_run
  cases attached
  rw [stored] at controlled
  exact Option.some.inj (Except.ok.inj controlled)

theorem forgery_refused_by_alice :
    ¬ Consents Sample.network forgeryLedger.reader forgery Sample.alice := by
  rintro (signed | ⟨proof, document, attached, proves, own⟩)
  · exact forgery_unsigned signed
  · rw [forgery_unproven attached proves.stored] at own
    exact absurd own (by decide)

theorem forgery_admitted_without_consent :
    forgeryCall.answer = .ok .admitted ∧
      ¬ Consents Sample.network forgeryLedger.reader forgery Sample.alice :=
  ⟨forgery_run.1, forgery_refused_by_alice⟩

theorem forgery_impersonates :
    (forgery.fact.kind? = some .transfer ∧ forgeryCall.answer = .ok .admitted) ∧
      Impersonated Sample.network forgeryLedger.reader forgery Sample.alice := by
  refine ⟨⟨rfl, forgery_run.1⟩, ?_⟩
  obtain ⟨signer, acting, exact⟩ :=
    admitted_without_consent_exact (rfl : forgery.fact.kind? = some .transfer) forgery_run.1
  cases acting
  exact exact.mp forgery_refused_by_alice

end SignedLedger

import SignedLedger.Proofs.Admission
import SignedLedger.Proofs.Operation.Claims
import SignedLedger.Proofs.Operation.Failure
import SignedLedger.Proofs.Session.Execution

-- Which faults a session of the standard registry can answer with. A fault says that
-- the wiring, the reader or the numbers are at odds; what the code keeps as a guard
-- against its own misuse is never met.
namespace SignedLedger
open Check Failure

def Registry.Unknown (registry : Registry) (hint : Hint) : Prop :=
  findCompatible registry.stateOnly hint = none ∧ findCompatible registry.proposalAware hint = none

inductive Fault.Documented (settings : Settings) (proposal : Option Proposal) (ctx : Context)
    (op : Operation) (reader : Reader) : Fault → Prop where
  | unregistered (unserved : settings.dispatch ≠ .registry ∨ settings.registry.Unknown op.hint) :
      Documented settings proposal ctx op reader (.unregistered op.hint)
  | proposalNeeded (named : op.hint.kind = FactKind.candidate.operationName)
      (alone : proposal = none) :
      Documented settings proposal ctx op reader (.config (.proposalNeeded op.hint))
  | factMismatch {kind : FactKind} (named : op.hint.kind = kind.operationName)
      (other : op.fact.kind? ≠ some kind) :
      Documented settings proposal ctx op reader (.factMismatch kind op.fact.hint)
  | reading {fault : Fault} (met : reader.Trouble fault) :
      Documented settings proposal ctx op reader fault
  | policy {currency : Currency} {design : CurrencyDesign} {violation : Violation}
      (stored : Lookup.currencyDesign reader currency = .ok (some design))
      (refused : design.policy.validate = .error (.invariant violation)) :
      Documented settings proposal ctx op reader (.invariant violation)
  | arithmetic (overflow : Overflow) : Documented settings proposal ctx op reader (.arithmetic overflow)
  | cancelled (given : ctx ≠ Context.active) : Documented settings proposal ctx op reader .cancelled

-- Guards against misuse: a fact that cannot be asked for what the pipeline needs, and
-- every violation that is not a policy's.
def Fault.Internal : Fault → Prop
  | .missingCapability _ _ => True
  | .invariant violation => ¬ violation.OfPolicy
  | _ => False

theorem Fault.Documented.of_internal {settings : Settings} {proposal : Option Proposal}
    {ctx : Context} {op : Operation} {reader : Reader} {fault : Fault}
    (documented : fault.Documented settings proposal ctx op reader) (internal : fault.Internal) :
    ∃ key, reader key = .error fault := by
  cases documented with
  | reading met =>
    cases met with
    | failing failed => exact ⟨_, failed⟩
    | mistyped _ _ => exact internal.elim
  | policy _ refused =>
    obtain ⟨violation, same, own⟩ := CurrencyPolicy.validate_fault refused
    cases same
    exact absurd own internal
  | unregistered _ => exact internal.elim
  | proposalNeeded _ _ => exact internal.elim
  | factMismatch _ _ => exact internal.elim
  | arithmetic _ => exact internal.elim
  | cancelled _ => exact internal.elim

def Failure.Answerable (settings : Settings) (proposal : Option Proposal) (ctx : Context)
    (op : Operation) (reader : Reader) (claimed : List Claim) : Failure → Prop
  | .rejected reason => reason.kind = .duplicated →
      ∃ claim ∈ op.claims, claim ∈ claimed ∧ reason = ⟨.duplicated, takenText claim⟩
  | .failed fault => fault.Documented settings proposal ctx op reader

section Stages
variable {settings : Settings} {height : Height} {proposal : Option Proposal} {ctx : Context}
  {op : Operation} {reader : Reader} {claimed : List Claim} {processor : Processor}
  {kind : FactKind}

theorem Failure.Expected.answerable {failure : Failure} (expected : failure.Expected reader) :
    failure.Answerable settings proposal ctx op reader claimed := by
  cases expected with
  | refusal apart => exact fun duplicate => absurd duplicate apart
  | trouble met => exact .reading met
  | policy stored refused => exact .policy stored refused
  | overflow overflow => exact .arithmetic overflow

theorem Check.FailsOnly.answerable {α : Type} {x : Check α} (fails : FailsOnly (Expected reader) x) :
    FailsOnly (Answerable settings proposal ctx op reader claimed) x :=
  fails.mono fun _ => Expected.answerable

-- An active context has no wire to trip over, so it is active after every stage.
theorem ensureActive_answerable {given : Context}
    (kept : ctx = Context.active → given = Context.active) :
    FailsOnly (Answerable settings proposal ctx op reader claimed)
      (liftM given.ensureActive : Check Unit) := by
  apply FailsOnly.lift
  intro fault failed
  unfold Context.ensureActive at failed
  split at failed
  · rename_i stopped
    cases failed
    apply Fault.Documented.cancelled
    intro active
    rw [kept active] at stopped
    cases stopped
  · cases failed

theorem Registry.standard_refused {proposal : Option Proposal} {hint : Hint} {fault : Fault}
    (refused : standard.choose proposal hint = .error fault) :
    (fault = .unregistered hint ∧ standard.Unknown hint) ∨
      fault = .config (.proposalNeeded hint) ∧
        hint.kind = FactKind.candidate.operationName ∧ proposal = none := by
  unfold choose at refused
  split at refused
  · cases refused
  · rename_i missing
    split at refused
    · rename_i missing'
      cases refused
      exact .inl ⟨rfl, missing, missing'⟩
    · rename_i maker there
      split at refused
      · cases refused
        obtain ⟨entry, member, _, named⟩ := findCompatible_mem standard_ascending.2 there
        obtain rfl := List.mem_singleton.mp member
        exact .inr ⟨rfl, named.symm, rfl⟩
      · cases refused

theorem Settings.server_refused (standard : settings.registry = Registry.standard)
    (byHint : settings.dispatch.ByHint) {fault : Fault}
    (failed : settings.server height proposal reader op = .error fault) :
    settings.dispatch.choose settings.registry ⟨height, proposal, reader⟩ op = .error fault := by
  unfold server find at failed
  cases choice : settings.dispatch.choose settings.registry ⟨height, proposal, reader⟩ op with
  | error other =>
    rw [choice] at failed
    cases failed
    rfl
  | ok chosen =>
    obtain ⟨maker, told⟩ := chosen
    have choice' := byHint.chosen choice
    rw [standard] at choice'
    obtain ⟨kind, rfl, _⟩ := Registry.standard_choose choice'
    rw [choice] at failed
    cases failed

theorem server_answerable (standard : settings.registry = Registry.standard)
    (byHint : settings.dispatch.ByHint) :
    FailsOnly (Answerable settings proposal ctx op reader claimed)
      (liftM (settings.server height proposal reader op) : Check Processor) := by
  apply FailsOnly.lift
  intro fault failed
  have refused := Settings.server_refused standard byHint failed
  have documented (chosen : Registry.standard.choose proposal op.hint = .error fault) :
      fault.Documented settings proposal ctx op reader := by
    rcases Registry.standard_refused chosen with ⟨rfl, unknown⟩ | ⟨rfl, named, alone⟩
    · exact .unregistered (.inr (standard ▸ unknown))
    · exact .proposalNeeded named alone
  by_cases rule : settings.dispatch = .registry
  · rw [rule, standard] at refused
    exact documented refused
  · obtain ⟨serves, exact⟩ := byHint
    rw [exact, standard] at refused
    split at refused
    · exact documented refused
    · cases refused
      exact .unregistered (.inl rule)

theorem signer_of_kind (builtIn : op.fact.kind?.isSome = true) : op.fact.signer?.isSome = true := by
  cases held : op.fact with
  | declared f =>
    rw [held] at builtIn
    cases builtIn
  | _ => rfl

theorem checkForm_answerable (builtIn : op.fact.kind?.isSome = true) :
    FailsOnly (Answerable settings proposal ctx op reader claimed) (checkForm settings op) := by
  apply FailsOnly.bind (validate_expected builtIn).answerable
  intro _ _
  exact verifySigns_expected.answerable

theorem checkEntry_answerable (builtIn : op.fact.kind?.isSome = true) :
    FailsOnly (Answerable settings proposal ctx op reader claimed)
      (checkEntry settings.network op reader) := by
  apply FailsOnly.bind (authorize_expected (signer_of_kind builtIn)).answerable
  intro _ _
  exact checkCapabilities_expected.answerable

theorem permit_answerable (serving : processor.kind = .builtIn kind)
    (named : op.hint.kind = kind.operationName) (bound : processor.bound.require = .ok reader) :
    FailsOnly (Answerable settings proposal ctx op reader claimed) (processor.permit op) := by
  rw [Processor.permit_own serving bound]
  split
  · rename_i own
    exact (Fact.ownPermit_expected own).answerable
  · rename_i other
    exact FailsOnly.fail (.factMismatch named other)

theorem standing_answerable (standard : settings.registry = Registry.standard)
    (byHint : settings.dispatch.ByHint) (builtIn : op.fact.kind?.isSome = true) :
    FailsOnly (Answerable settings proposal ctx op reader claimed)
      (settings.standing height proposal ctx op reader) := by
  apply FailsOnly.bind (ensureActive_answerable id)
  intro _ _
  apply FailsOnly.bind (checkForm_answerable builtIn)
  intro _ _
  apply FailsOnly.bind (server_answerable standard byHint)
  intro processor found
  have served := lift_ok.mp found
  obtain ⟨kind, serving, named⟩ := Settings.server_standard standard byHint served
  apply FailsOnly.bind (checkEntry_answerable builtIn)
  intro _ _
  apply FailsOnly.bind
  · apply ensureActive_answerable
    rintro rfl
    rfl
  intro _ _
  apply FailsOnly.bind (permit_answerable serving named (Settings.server_bound served))
  intro _ _
  apply ensureActive_answerable
  rintro rfl
  rfl

theorem standing_permitted (builtIn : op.fact.kind?.isSome = true)
    (stands : settings.standing height proposal ctx op reader = .ok ()) :
    ∃ processor, op.Permitted settings height proposal reader processor := by
  obtain ⟨form, _, processor, served, permitted⟩ := Settings.standing_parts stands
  exact ⟨processor, builtIn, checkForm_valid form, served, permitted⟩

-- By then only operations of their own type are left, and of these whoever is exempt
-- makes no claims, and nobody else lacks them.
theorem duplication_answerable (standard : settings.registry = Registry.standard)
    (byHint : settings.ByHint) (permitted : op.Permitted settings height proposal reader processor)
    (tracker : Tracker) :
    FailsOnly (Answerable settings proposal ctx op reader tracker.claimed)
      (settings.duplication.check tracker op).1 := by
  obtain ⟨kind, serving, named⟩ :=
    Settings.server_standard standard byHint.dispatch permitted.served
  have typed := Processor.permit_kind serving permitted.permitted
  obtain ⟨minds, exact⟩ := byHint.duplication
  intro failure refused
  rw [exact] at refused
  split at refused
  · unfold checkDuplication at refused
    split at refused
    · cases refused
    · rename_i plain
      split at refused
      -- Only candidates make no claims, and their hint is exempt.
      · rename_i lacking
        refine absurd ?_ plain
        cases held : op.fact with
        | candidate f =>
          rw [held] at typed
          cases typed
          rw [Hint.isExempt, named]
          decide
        | declared f =>
          rw [held] at typed
          cases typed
        | _ =>
          rw [held] at lacking
          cases lacking
      · rename_i set made
        unfold Tracker.take at refused
        split at refused
        · rename_i reason found
          cases refused
          intro _
          have distinct := Fact.claims_nodup permitted.builtIn permitted.valid made
          obtain ⟨claim, claims, held, rfl⟩ := Tracker.conflict_taken distinct (by simp) found
          refine ⟨claim, ?_, held, rfl⟩
          rwa [permitted.claims_of_standard standard byHint.dispatch made]
        · cases refused
  · cases refused

theorem typeAndFeeValues_answerable (serving : processor.kind = .builtIn kind)
    (named : op.hint.kind = kind.operationName) (bound : processor.bound.require = .ok reader) :
    FailsOnly (Answerable settings proposal ctx op reader claimed)
      (typeAndFeeValues processor op reader) := by
  apply FailsOnly.bind
  · rw [Processor.effects_own serving bound]
    split
    · exact Fact.ownEffects_expected.answerable
    · rename_i other
      exact FailsOnly.fail (.factMismatch named other)
  intro _ _
  apply FailsOnly.bind feeValues_expected.answerable
  intro _ _
  exact FailsOnly.ok _

theorem typeAndFeeValues_money {values : List MergeValue} (serving : processor.kind = .builtIn kind)
    (bound : processor.bound.require = .ok reader)
    (written : typeAndFeeValues processor op reader = .ok values) : MoneyOnly values := by
  obtain ⟨own, charges, effects, _, rfl⟩ := typeAndFeeValues_parts written
  rw [Processor.effects_own serving bound] at effects
  split at effects
  · rename_i typed
    exact (Fact.ownEffects_money typed effects).withFees charges
  · cases effects

theorem execution_answerable (standard : settings.registry = Registry.standard)
    (byHint : settings.dispatch.ByHint) :
    FailsOnly (Answerable settings proposal ctx op reader [])
      (settings.execution height proposal ctx op reader) := by
  apply FailsOnly.bind (ensureActive_answerable id)
  intro _ _
  apply FailsOnly.bind (server_answerable standard byHint)
  intro processor found
  have served := lift_ok.mp found
  have bound := Settings.server_bound served
  obtain ⟨kind, serving, named⟩ := Settings.server_standard standard byHint served
  apply FailsOnly.bind (typeAndFeeValues_answerable serving named bound)
  intro values written
  apply FailsOnly.bind
  · apply ensureActive_answerable
    rintro rfl
    rfl
  intro _ _
  have checked : FailsOnly (Expected reader) (checkBalances reader values) :=
    (checkBalances_shortfall (typeAndFeeValues_money serving bound written)).mono
      fun _ => Shortfall.expected
  apply FailsOnly.bind checked.answerable
  intro _ _
  exact FailsOnly.ok _

end Stages

-- For a session that has not ended, over any reader, and for an operation with any of
-- the built-in facts under any hint: every fault is documented, the guards against
-- misuse only ever pass on what the reader itself says, and a duplicate is a claim that
-- the session holds, never one that the operation repeats.
theorem session_faults_documented {settings : Settings}
    (standard : settings.registry = Registry.standard) (byHint : settings.ByHint) {height : Height}
    {proposal : Option Proposal} {e : Engine} (path : Engine.Reachable settings e) {s : Session}
    (live : s.Live settings height proposal) {op : Operation}
    (builtIn : op.fact.kind?.isSome = true) (ctx : Context) (reader : Reader) :
    let entered := (e.preProcess s ctx op reader).answer
    let executed := (e.process s ctx op reader).answer
    (∀ fault, entered = .error fault ∨ executed = .error fault →
      fault.Documented settings proposal ctx op reader ∧
        (fault.Internal → ∃ key, reader key = .error fault)) ∧
    (∀ reason, entered = .ok (.rejected reason) → reason.kind = .duplicated →
      ∃ claim ∈ op.claims, claim ∈ s.claimed ∧ reason = ⟨.duplicated, takenText claim⟩) ∧
    (∀ reason, executed = .ok (.rejected reason) → reason.kind ≠ .duplicated) ∧
    ∀ claim, entered ≠ .ok (.rejected ⟨.duplicated, repeatedText claim⟩) ∧
      executed ≠ .ok (.rejected ⟨.duplicated, repeatedText claim⟩) := by
  intro entered executed
  obtain ⟨tracker, held, answer⟩ := live.preProcess_answer path ctx op reader
  have answer' := live.process_answer path ctx op reader
  have claimed : s.claimed = tracker.claimed := by
    rw [Session.claimed, held]
    rfl
  -- An admission fails in what it asks of the operation, where no claims are looked at, or in
  -- the check of the claims.
  have entering : FailsOnly (Answerable settings proposal ctx op reader s.claimed)
      (settings.standing height proposal ctx op reader >>= fun _ =>
        (settings.duplication.check tracker op).1) := by
    rw [claimed]
    apply FailsOnly.bind (standing_answerable standard byHint.dispatch builtIn)
    intro _ stands
    obtain ⟨processor, permitted⟩ := standing_permitted builtIn stands
    exact duplication_answerable standard byHint permitted tracker
  have executing : FailsOnly (Answerable settings proposal ctx op reader [])
      (settings.execution height proposal ctx op reader) :=
    execution_answerable standard byHint.dispatch
  have duplicates (reason : Reason) (refused : entered = .ok (.rejected reason)) :
      reason.kind = .duplicated →
        ∃ claim ∈ op.claims, claim ∈ s.claimed ∧ reason = ⟨.duplicated, takenText claim⟩ :=
    entering _ (admission_rejected.mp (answer.symm.trans refused))
  have apart (reason : Reason) (refused : executed = .ok (.rejected reason)) :
      reason.kind ≠ .duplicated := by
    intro duplicate
    obtain ⟨claim, _, none, _⟩ :=
      executing _ (executed_rejected.mp (answer'.symm.trans refused)) duplicate
    cases none
  refine ⟨fun fault failed => ?_, duplicates, apart, fun claim => ⟨fun repeated => ?_, ?_⟩⟩
  · have documented : fault.Documented settings proposal ctx op reader := by
      rcases failed with failed | failed
      · exact entering _ (admission_failed.mp (answer.symm.trans failed))
      · exact executing _ (executed_failed.mp (answer'.symm.trans failed))
    exact ⟨documented, documented.of_internal⟩
  · obtain ⟨other, _, _, same⟩ := duplicates _ repeated rfl
    exact takenText_ne_repeatedText other claim (congrArg Reason.message same).symm
  · exact fun repeated => apart _ repeated rfl

namespace Sample

def disguised : Operation := signed .transfer (.candidate ⟨[1], alice, key⟩) Extensions.none

def started : Session := (engine.checkout ⟨2⟩ none).1

end Sample

set_option maxRecDepth 100000 in
theorem disguised_candidacy_documented :
    let fault := Fault.factMismatch .transfer FactKind.candidate.factHint
    (Sample.engine.preProcess Sample.started Context.active Sample.disguised
        Sample.plainLedger.reader).answer = .error fault ∧
      fault.Documented Sample.settings none Context.active Sample.disguised
        Sample.plainLedger.reader := by
  intro fault
  have path : Engine.Reachable Sample.settings Sample.engine := .new 1 1
  have live : Sample.started.Live Sample.settings ⟨2⟩ none := .checkout path
  have builtIn : Sample.disguised.fact.kind?.isSome = true := rfl
  have answered : (Sample.engine.preProcess Sample.started Context.active Sample.disguised
      Sample.plainLedger.reader).answer = .error fault := by decide +kernel
  have byHint : Sample.settings.ByHint :=
    ⟨DuplicationRule.claims_byHint, DispatchRule.registry_byHint⟩
  have faults := (session_faults_documented rfl byHint path live builtIn Context.active
    Sample.plainLedger.reader).1
  exact ⟨answered, (faults fault (.inl answered)).1⟩

end SignedLedger

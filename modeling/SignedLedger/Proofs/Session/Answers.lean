import SignedLedger.Proofs.Check
import SignedLedger.Proofs.Session.Pool

-- What an answer tells about the call that gave it, and what a call leaves behind
-- when it does not admit.
namespace SignedLedger
open Check

def Session.blank (s : Session) : Session := { s with tracked := some [] }

def Session.keeping (s : Session) (processors : List Processor) : Session :=
  { s with tracked := some processors }

theorem Session.requireTracker_ok {s : Session} {tracker : Tracker} :
    s.requireTracker = .ok tracker ↔ s.tracker = some tracker := by
  unfold requireTracker
  cases s.tracker with
  | none => simp
  | some held => simp

namespace Check
variable {α : Type}

theorem admission_admitted {result : Check α} :
    result.admission = .ok .admitted ↔ ∃ a, result = .ok a := by
  unfold admission
  split <;> simp

theorem admission_failed {result : Check α} {fault : Fault} :
    result.admission = .error fault ↔ result = .error (.failed fault) := by
  unfold admission
  split <;> simp

theorem admission_rejected {result : Check α} {reason : Reason} :
    result.admission = .ok (.rejected reason) ↔ result = .error (.rejected reason) := by
  unfold admission
  split <;> simp

variable {result : Check (List MergeValue)}

theorem executed_accepted {values : List MergeValue} :
    result.executed = .ok (.accepted values) ↔ result = .ok values := by
  unfold executed
  split <;> simp [Outcome.accepted, Outcome.rejected]

theorem executed_failed {fault : Fault} :
    result.executed = .error fault ↔ result = .error (.failed fault) := by
  unfold executed
  split <;> simp

theorem executed_rejected {reason : Reason} :
    result.executed = .ok (.rejected reason) ↔ result = .error (.rejected reason) := by
  unfold executed
  split <;> simp [Outcome.accepted, Outcome.rejected]

end Check

theorem checkForm_valid {settings : Settings} {op : Operation}
    (form : checkForm settings op = .ok ()) : op.fact.validate settings.limits = .ok () := by
  unfold checkForm at form
  obtain ⟨_, valid, _⟩ := bind_ok.mp form
  exact valid

theorem checkEntry_parts {network : NetworkId} {op : Operation} {reader : Reader}
    (checked : checkEntry network op reader = .ok ()) :
    authorizeSigner network op reader = .ok () ∧ verifyPayment network op reader = .ok () ∧
      checkCapabilities op reader = .ok () := by
  unfold checkEntry authorize at checked
  simp only [bind_ok] at checked
  obtain ⟨_, ⟨_, signer, payment⟩, capabilities⟩ := checked
  exact ⟨signer, payment, capabilities⟩

def DuplicationRule.Atomic (rule : DuplicationRule) : Prop :=
  ∀ tracker op, (rule.check tracker op).1 ≠ .ok () → (rule.check tracker op).2 = tracker

-- A check that goes by the hint: of what it minds it looks at the claims, as the checks of
-- the engine do.
def DuplicationRule.ByHint (rule : DuplicationRule) : Prop :=
  ∃ minds : Hint → Bool, ∀ tracker op, rule.check tracker op =
    if minds op.hint then checkDuplication tracker op else (.ok (), tracker)

theorem DuplicationRule.claims_byHint : DuplicationRule.claims.ByHint :=
  ⟨fun _ => true, fun _ _ => rfl⟩

-- A choice that goes by the hint: what it serves at all, it serves with what the registry
-- has for it.
def DispatchRule.ByHint (rule : DispatchRule) : Prop :=
  ∃ serves : Hint → Bool, ∀ registry site op, rule.choose registry site op =
    if serves op.hint then registry.choose site.proposal op.hint
    else .error (.unregistered op.hint)

theorem DispatchRule.registry_byHint : DispatchRule.registry.ByHint :=
  ⟨fun _ => true, fun _ _ _ => rfl⟩

theorem DispatchRule.ByHint.chosen {rule : DispatchRule} (byHint : rule.ByHint)
    {registry : Registry} {site : Registry.Site} {op : Operation} {chosen : Maker × Option Proposal}
    (choice : rule.choose registry site op = .ok chosen) :
    registry.choose site.proposal op.hint = .ok chosen := by
  obtain ⟨serves, exact⟩ := byHint
  rw [exact] at choice
  split at choice
  · exact choice
  · cases choice

structure Settings.ByHint (settings : Settings) : Prop where
  duplication : settings.duplication.ByHint
  dispatch : settings.dispatch.ByHint

structure Session.Kept (s s' : Session) : Prop where
  height_eq : s'.height = s.height
  proposal_eq : s'.proposal = s.proposal
  tracker : s.tracker.isSome = true → s'.tracker.isSome = true
  tracked : s.tracked.isSome = true → s'.tracked.isSome = true

namespace Session.Kept
variable {s s' s'' : Session}

theorem refl (s : Session) : s.Kept s := ⟨rfl, rfl, id, id⟩

theorem trans (one : s.Kept s') (two : s'.Kept s'') : s.Kept s'' :=
  ⟨two.height_eq.trans one.height_eq, two.proposal_eq.trans one.proposal_eq,
    two.tracker ∘ one.tracker, two.tracked ∘ one.tracked⟩

end Session.Kept

-- Sessions that know the same, and keep the same processors on top of what each of them
-- had before.
structure Session.Same (before before' : List Processor) (s s' : Session) : Prop where
  known : s.blank = s'.blank
  kept : ∃ common, s.tracked = some (before ++ common) ∧ s'.tracked = some (before' ++ common)

namespace Session.Same
variable {before before' : List Processor} {s s' : Session}

theorem start (known : s.blank = s'.blank) (held : s.tracked = some before)
    (held' : s'.tracked = some before') : Same before before' s s' :=
  ⟨known, [], by rw [held, List.append_nil], by rw [held', List.append_nil]⟩

theorem eq (same : Same [] [] s s') : s = s' := by
  obtain ⟨known, common, held, held'⟩ := same
  obtain ⟨height, proposal, tracker, tracked⟩ := s
  obtain ⟨height', proposal', tracker', tracked'⟩ := s'
  cases held
  cases held'
  simp only [blank, mk.injEq, and_true] at known ⊢
  exact known

theorem opened (same : Same before before' s s') : s.tracked.isSome = true := by
  obtain ⟨_, _, held, _⟩ := same
  rw [held]
  rfl

theorem height (same : Same before before' s s') : s.height = s'.height :=
  (congrArg Session.height same.known :)

theorem proposal (same : Same before before' s s') : s.proposal = s'.proposal :=
  (congrArg Session.proposal same.known :)

theorem tracker (same : Same before before' s s') : s.tracker = s'.tracker :=
  (congrArg Session.tracker same.known :)

theorem withTracker (same : Same before before' s s') (new : Tracker) :
    Same before before' (s.withTracker new) (s'.withTracker new) :=
  ⟨congrArg (fun known => Session.withTracker known new) same.known, same.kept⟩

end Session.Same

namespace Engine
variable {e : Engine} {settings : Settings} {w : Workshop} {s : Session} {ctx : Context}
  {op : Operation} {reader : Reader}

theorem admission_parts (settings : Settings) (s : Session) (processor : Processor) (ctx : Context)
    (op : Operation) (reader : Reader) :
    (∃ failure, admission settings s processor ctx op reader = (.error failure, s)) ∨
      ∃ tracker, s.tracker = some tracker ∧
        permission settings processor ctx op reader = .ok () ∧
        admission settings s processor ctx op reader =
          ((settings.duplication.check tracker op).1,
            s.withTracker (settings.duplication.check tracker op).2) := by
  unfold admission
  cases permission settings processor ctx op reader with
  | error failure => exact .inl ⟨failure, rfl⟩
  | ok =>
    dsimp only
    cases held : s.requireTracker with
    | error fault => exact .inl ⟨.failed fault, rfl⟩
    | ok tracker => exact .inr ⟨tracker, Session.requireTracker_ok.mp held, rfl, rfl⟩

theorem admission_kept (settings : Settings) (s : Session) (processor : Processor) (ctx : Context)
    (op : Operation) (reader : Reader) :
    s.Kept (admission settings s processor ctx op reader).2 := by
  rcases admission_parts settings s processor ctx op reader with
    ⟨failure, stopped⟩ | ⟨tracker, _, _, asked⟩
  · rw [stopped]
    exact .refl s
  · rw [asked]
    exact ⟨rfl, rfl, fun _ => rfl, id⟩

theorem admission_refused (atomic : settings.duplication.Atomic) {processor : Processor}
    (refused : (admission settings s processor ctx op reader).1 ≠ .ok ()) :
    (admission settings s processor ctx op reader).2 = s := by
  rcases admission_parts settings s processor ctx op reader with
    ⟨failure, stopped⟩ | ⟨tracker, held, _, asked⟩
  · rw [stopped]
  · rw [asked] at refused ⊢
    rw [atomic tracker op refused]
    obtain ⟨height, proposal, tracker', tracked⟩ := s
    cases held
    rfl

theorem trackAnd_ok {α : Type} {processor : Processor} {result : Check α} {a : α}
    (done : (trackAnd s w processor result).result = .ok a) :
    result = .ok a ∧ ∃ processors, s.tracked = some processors ∧
      (trackAnd s w processor result).session = s.keeping (processors ++ [processor]) := by
  unfold trackAnd Session.track at *
  cases held : s.tracked with
  | none => simp [held] at done
  | some processors =>
    simp only [held] at done ⊢
    exact ⟨done, processors, rfl, rfl⟩

theorem trackAnd_blank {α : Type} (processor : Processor) (result : Check α) :
    (trackAnd s w processor result).session.blank = s.blank := by
  unfold trackAnd Session.track
  cases s.tracked with
  | none => rfl
  | some processors => rfl

theorem trackAnd_kept {α : Type} (processor : Processor) (result : Check α) :
    s.Kept (trackAnd s w processor result).session := by
  unfold trackAnd Session.track
  cases held : s.tracked with
  | none => exact .refl s
  | some processors => exact ⟨rfl, rfl, id, fun _ => rfl⟩

theorem trackAnd_result {α : Type} (processor : Processor) (result : Check α)
    (opened : s.tracked.isSome = true) : (trackAnd s w processor result).result = result := by
  unfold trackAnd Session.track
  cases held : s.tracked with
  | none => simp [held] at opened
  | some processors => rfl

theorem runPreProcess_ok
    (done : (runPreProcess settings w s ctx op reader).result = .ok ()) :
    ∃ processors old processor rest,
      s.tracked = some processors ∧ s.tracker = some old ∧ checkForm settings op = .ok () ∧
      settings.find w s op reader = .ok (processor, rest) ∧
      checkEntry settings.network op reader = .ok () ∧ processor.permit op = .ok () ∧
      (settings.duplication.check old op).1 = .ok () ∧
      (runPreProcess settings w s ctx op reader).session =
        (s.withTracker (settings.duplication.check old op).2).keeping
          (processors ++ [processor]) := by
  unfold runPreProcess at *
  cases form : checkForm settings op with
  | error failure => simp [form] at done
  | ok =>
    cases found : settings.find w s op reader with
    | error fault => simp [form, found] at done
    | ok pair =>
      obtain ⟨processor, rest⟩ := pair
      simp only [form, found] at done ⊢
      obtain ⟨admitted, processors, held, kept⟩ := trackAnd_ok done
      rcases admission_parts settings s processor ctx op reader with
        ⟨failure, stopped⟩ | ⟨old, tracker, permitted, asked⟩
      · rw [stopped] at admitted
        cases admitted
      · rw [asked] at admitted held kept
        unfold permission at permitted
        simp only [bind_ok, lift_ok] at permitted
        obtain ⟨_, entry, _, _, _, permit, _⟩ := permitted
        rw [asked]
        exact ⟨processors, old, processor, rest, held, tracker, trivial, rfl, entry, permit,
          admitted, kept⟩

theorem runProcess_ok {values : List MergeValue}
    (done : (runProcess settings w s ctx op reader).result = .ok values) :
    ∃ processor rest, settings.find w s op reader = .ok (processor, rest) ∧
      typeAndFeeValues processor op reader = .ok values ∧ checkBalances reader values = .ok () := by
  unfold runProcess at done
  cases found : settings.find w s op reader with
  | error fault => simp [found] at done
  | ok pair =>
    obtain ⟨processor, rest⟩ := pair
    simp only [found] at done
    obtain ⟨effects, _⟩ := trackAnd_ok done
    unfold outcome at effects
    simp only [bind_ok, lift_ok, pure_ok] at effects
    obtain ⟨written, own, _, _, _, balanced, rfl⟩ := effects
    exact ⟨processor, rest, rfl, own, balanced⟩

theorem runPreProcess_kept (settings : Settings) (w : Workshop) (s : Session) (ctx : Context)
    (op : Operation) (reader : Reader) :
    s.Kept (runPreProcess settings w s ctx op reader).session := by
  unfold runPreProcess
  split
  · exact .refl s
  · split
    · exact .refl s
    · exact (admission_kept _ _ _ _ _ _).trans (trackAnd_kept _ _)

theorem runProcess_kept (settings : Settings) (w : Workshop) (s : Session) (ctx : Context)
    (op : Operation) (reader : Reader) :
    s.Kept (runProcess settings w s ctx op reader).session := by
  unfold runProcess
  split
  · exact .refl s
  · exact trackAnd_kept _ _

theorem runPreProcess_refused (atomic : settings.duplication.Atomic)
    (opened : s.tracked.isSome = true)
    (refused : (runPreProcess settings w s ctx op reader).result ≠ .ok ()) :
    (runPreProcess settings w s ctx op reader).session.blank = s.blank := by
  unfold runPreProcess at *
  split
  · rfl
  · rename_i form
    simp only [form] at refused
    split
    · rfl
    · rename_i processor rest found
      simp only [found] at refused
      rw [trackAnd_result _ _ ((admission_kept _ _ _ _ _ _).tracked opened)] at refused
      rw [trackAnd_blank, admission_refused atomic refused]

theorem runProcess_blank (settings : Settings) (w : Workshop) (s : Session) (ctx : Context)
    (op : Operation) (reader : Reader) :
    (runProcess settings w s ctx op reader).session.blank = s.blank := by
  unfold runProcess
  split
  · rfl
  · exact trackAnd_blank _ _

theorem preProcess_kept (e : Engine) (s : Session) (ctx : Context) (op : Operation)
    (reader : Reader) : s.Kept (e.preProcess s ctx op reader).session := by
  cases active : ctx.ensureActive with
  | error fault =>
    rw [preProcess_stopped active]
    exact .refl s
  | ok =>
    rw [(preProcess_active e s op reader active).2.1]
    exact runPreProcess_kept _ _ _ _ _ _

theorem process_kept (e : Engine) (s : Session) (ctx : Context) (op : Operation)
    (reader : Reader) : s.Kept (e.process s ctx op reader).session := by
  cases active : ctx.ensureActive with
  | error fault =>
    rw [process_stopped active]
    exact .refl s
  | ok =>
    rw [(process_active e s op reader active).2.1]
    exact runProcess_kept _ _ _ _ _ _

theorem preProcess_admitted
    (admitted : (e.preProcess s ctx op reader).answer = .ok .admitted) :
    (runPreProcess e.settings e.workshop s ctx op reader).result = .ok () ∧
      (e.preProcess s ctx op reader).session =
        (runPreProcess e.settings e.workshop s ctx op reader).session := by
  cases active : ctx.ensureActive with
  | error fault =>
    rw [preProcess_stopped active] at admitted
    cases admitted
  | ok =>
    obtain ⟨answer, left, _⟩ := preProcess_active e s op reader active
    rw [answer, admission_admitted] at admitted
    obtain ⟨_, done⟩ := admitted
    exact ⟨done, left⟩

theorem preProcess_refused (atomic : e.settings.duplication.Atomic)
    (opened : s.tracked.isSome = true)
    (refused : (e.preProcess s ctx op reader).answer ≠ .ok .admitted) :
    (e.preProcess s ctx op reader).session.blank = s.blank := by
  cases active : ctx.ensureActive with
  | error fault => rw [preProcess_stopped active]
  | ok =>
    obtain ⟨answer, left, _⟩ := preProcess_active e s op reader active
    rw [left]
    refine runPreProcess_refused atomic opened fun done => refused ?_
    rw [answer, done]
    rfl

theorem process_blank (e : Engine) (s : Session) (ctx : Context) (op : Operation)
    (reader : Reader) : (e.process s ctx op reader).session.blank = s.blank := by
  cases active : ctx.ensureActive with
  | error fault => rw [process_stopped active]
  | ok => rw [(process_active e s op reader active).2.1, runProcess_blank]

theorem process_accepted {values : List MergeValue}
    (accepted : (e.process s ctx op reader).answer = .ok (.accepted values)) :
    (runProcess e.settings e.workshop s ctx op reader).result = .ok values := by
  cases active : ctx.ensureActive with
  | error fault =>
    rw [process_stopped active] at accepted
    cases accepted
  | ok => rwa [(process_active e s op reader active).1, executed_accepted] at accepted

section Same
variable {before before' : List Processor} {w' : Workshop} {s' : Session} {e' : Engine}

theorem find_same (clean : w.Clean) (clean' : w'.Clean) (height : s.height = s'.height)
    (proposal : s.proposal = s'.proposal) (op : Operation) (reader : Reader) :
    (∃ fault, settings.find w s op reader = .error fault ∧
      settings.find w' s' op reader = .error fault) ∨
    ∃ processor rest rest', settings.find w s op reader = .ok (processor, rest) ∧
      settings.find w' s' op reader = .ok (processor, rest') := by
  have moved : settings.find w' s' op reader = settings.find w' s op reader := by
    unfold Settings.find
    rw [height, proposal]
  rw [moved]
  rcases settings.find_decides s op reader with ⟨fault, refused⟩ | ⟨_, told, kind, _, _, taken⟩
  · exact .inl ⟨fault, refused w, refused w'⟩
  · have served {v : Workshop} (idle : v.Clean) : settings.find v s op reader =
        .ok (Processor.serving kind s.height told reader,
          (v.take kind s.height told reader).2) := by
      rw [taken v, ← (Workshop.take_clean idle kind s.height told reader).1]
    exact .inr ⟨_, _, _, served clean, served clean'⟩

theorem trackAnd_same {α : Type} (same : s.Same before before' s') (processor : Processor)
    (result : Check α) :
    (trackAnd s w processor result).result = (trackAnd s' w' processor result).result ∧
      (trackAnd s w processor result).session.Same before before'
        (trackAnd s' w' processor result).session := by
  obtain ⟨known, common, held, held'⟩ := same
  have one : s.track processor = .ok (s.keeping (before ++ (common ++ [processor]))) := by
    simp only [Session.track, held, List.append_assoc, Session.keeping]
  have two : s'.track processor = .ok (s'.keeping (before' ++ (common ++ [processor]))) := by
    simp only [Session.track, held', List.append_assoc, Session.keeping]
  unfold trackAnd
  rw [one, two]
  exact ⟨rfl, known, common ++ [processor], rfl, rfl⟩

theorem admission_same (settings : Settings) (same : s.Same before before' s')
    (processor : Processor) (ctx : Context) (op : Operation) (reader : Reader) :
    (admission settings s processor ctx op reader).1 =
        (admission settings s' processor ctx op reader).1 ∧
      (admission settings s processor ctx op reader).2.Same before before'
        (admission settings s' processor ctx op reader).2 := by
  unfold admission Session.requireTracker
  rw [← same.tracker]
  cases permission settings processor ctx op reader with
  | error failure => exact ⟨rfl, same⟩
  | ok =>
    cases s.tracker with
    | none => exact ⟨rfl, same⟩
    | some tracker => exact ⟨rfl, same.withTracker _⟩

theorem runPreProcess_same (clean : w.Clean) (clean' : w'.Clean)
    (same : s.Same before before' s') (ctx : Context) (op : Operation) (reader : Reader) :
    (runPreProcess settings w s ctx op reader).result =
        (runPreProcess settings w' s' ctx op reader).result ∧
      (runPreProcess settings w s ctx op reader).session.Same before before'
        (runPreProcess settings w' s' ctx op reader).session := by
  unfold runPreProcess
  cases checkForm settings op with
  | error failure => exact ⟨rfl, same⟩
  | ok =>
    dsimp only
    rcases find_same clean clean' same.height same.proposal op reader with
      ⟨fault, refused, refused'⟩ | ⟨processor, rest, rest', taken, taken'⟩
    · rw [refused, refused']
      exact ⟨rfl, same⟩
    · obtain ⟨result, left⟩ := admission_same settings same processor ctx op reader
      rw [taken, taken']
      dsimp only
      rw [result]
      exact trackAnd_same left processor _

theorem runProcess_same (clean : w.Clean) (clean' : w'.Clean)
    (same : s.Same before before' s') (ctx : Context) (op : Operation) (reader : Reader) :
    (runProcess settings w s ctx op reader).result =
        (runProcess settings w' s' ctx op reader).result ∧
      (runProcess settings w s ctx op reader).session.Same before before'
        (runProcess settings w' s' ctx op reader).session := by
  unfold runProcess
  rcases find_same clean clean' same.height same.proposal op reader with
    ⟨fault, refused, refused'⟩ | ⟨processor, rest, rest', taken, taken'⟩
  · rw [refused, refused']
    exact ⟨rfl, same⟩
  · rw [taken, taken']
    exact trackAnd_same same processor _

theorem preProcess_same (clean : e.Clean) (clean' : e'.Clean) (alike : e.settings = e'.settings)
    (same : s.Same before before' s') (ctx : Context) (op : Operation) (reader : Reader) :
    (e.preProcess s ctx op reader).answer = (e'.preProcess s' ctx op reader).answer ∧
      (e.preProcess s ctx op reader).session.Same before before'
        (e'.preProcess s' ctx op reader).session := by
  cases active : ctx.ensureActive with
  | error fault =>
    rw [preProcess_stopped active, preProcess_stopped active]
    exact ⟨rfl, same⟩
  | ok =>
    obtain ⟨answer, session, _⟩ := preProcess_active e s op reader active
    obtain ⟨answer', session', _⟩ := preProcess_active e' s' op reader active
    rw [answer, answer', session, session', ← alike]
    obtain ⟨result, left⟩ := runPreProcess_same clean.processors clean'.processors same ctx op reader
    exact ⟨congrArg Check.admission result, left⟩

theorem process_same (clean : e.Clean) (clean' : e'.Clean) (alike : e.settings = e'.settings)
    (same : s.Same before before' s') (ctx : Context) (op : Operation) (reader : Reader) :
    (e.process s ctx op reader).answer = (e'.process s' ctx op reader).answer ∧
      (e.process s ctx op reader).session.Same before before'
        (e'.process s' ctx op reader).session := by
  cases active : ctx.ensureActive with
  | error fault =>
    rw [process_stopped active, process_stopped active]
    exact ⟨rfl, same⟩
  | ok =>
    obtain ⟨answer, session, _⟩ := process_active e s op reader active
    obtain ⟨answer', session', _⟩ := process_active e' s' op reader active
    rw [answer, answer', session, session', ← alike]
    obtain ⟨result, left⟩ := runProcess_same clean.processors clean'.processors same ctx op reader
    exact ⟨congrArg Check.executed result, left⟩

end Same
end Engine
end SignedLedger

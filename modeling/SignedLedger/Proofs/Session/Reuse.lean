import SignedLedger.Proofs.Session.Served

-- Reuse. A session is open while others are, on the same engine and on engines that
-- share its lists of processors. None of them can be told from what the session answers:
-- it answers like a session of an engine that has never been used.
namespace SignedLedger

-- What others do to the lists of processors, which all engines of a process share.
inductive Errand where
  | take (kind : ProcessorKind) (height : Height) (proposal : Option Proposal) (reader : Reader)
  | close (processor : Processor)
  | resize (capacity : Nat)

def Workshop.run (w : Workshop) : Errand → Workshop
  | .take kind height proposal reader => (w.take kind height proposal reader).2
  | .close processor => (w.close processor).2
  | .resize capacity => w.setCapacity capacity

inductive Move where
  | checkout (height : Height) (proposal : Option Proposal)
  | serve (session : Session) (request : Request)
  | finish (session : Session) (cancelled : Bool)
  | elsewhere (errand : Errand)

def Engine.move (e : Engine) : Move → Engine
  | .checkout height proposal => (e.checkout height proposal).2
  | .serve session request => (Desk.serve ⟨e, session⟩ request).2.engine
  | .finish session cancelled => e.finish session cancelled
  | .elsewhere errand => e.withWorkshop (e.workshop.run errand)

def Engine.moves (e : Engine) (history : List Move) : Engine := history.foldl Engine.move e

inductive Event where
  | own (request : Request)
  | other (move : Move)

def Event.request? : Event → Option Request
  | .own request => some request
  | .other _ => none

namespace Desk

def meet (d : Desk) : Event → Desk
  | .own request => (d.serve request).2
  | .other move => { d with engine := d.engine.move move }

def through (d : Desk) (events : List Event) : Desk := events.foldl meet d

def meanwhile (d : Desk) : List Event → List (Request × Reply)
  | [] => []
  | .own request :: rest =>
    (request, (d.serve request).1) :: (d.serve request).2.meanwhile rest
  | .other move :: rest => (d.meet (.other move)).meanwhile rest

end Desk

def Registry.shown (registry : Registry) (proposal : Option Proposal) (hint : Hint) :
    Option Proposal :=
  match Registry.findCompatible registry.stateOnly hint with
  | some _ => none
  | none => proposal

theorem Registry.choose_told {registry : Registry} {proposal told : Option Proposal} {hint : Hint}
    {maker : Maker} (chosen : registry.choose proposal hint = .ok (maker, told)) :
    told = registry.shown proposal hint := by
  unfold choose at chosen
  unfold shown
  cases plain : findCompatible registry.stateOnly hint with
  | some maker =>
    simp only [plain, Except.ok.injEq, Prod.mk.injEq] at chosen
    exact chosen.2.symm
  | none =>
    simp only [plain] at chosen
    split at chosen
    · cases chosen
    · split at chosen
      · cases chosen
      · cases chosen
        rfl

theorem Workshop.setCapacity_clean {w : Workshop} (clean : w.Clean) (capacity : Nat) :
    (w.setCapacity capacity).Clean := by
  intro kind processor idle
  exact clean kind processor (List.mem_of_mem_drop idle)

theorem Workshop.run_clean {w : Workshop} (clean : w.Clean) (errand : Errand) :
    (w.run errand).Clean := by
  cases errand with
  | take kind height proposal reader => exact (take_clean clean kind height proposal reader).2
  | close processor => exact close_clean clean processor
  | resize capacity => exact setCapacity_clean clean capacity

namespace Engine
variable {e : Engine}

theorem move_clean (clean : e.Clean) (move : Move) : (e.move move).Clean := by
  cases move with
  | checkout height proposal => exact checkout_clean clean height proposal
  | serve session request => exact Desk.serve_clean (d := ⟨e, session⟩) clean request
  | finish session cancelled => exact finish_clean clean session cancelled
  | elsewhere errand => exact ⟨clean.sessions, Workshop.run_clean clean.processors errand⟩

theorem move_settings (e : Engine) (move : Move) : (e.move move).settings = e.settings := by
  cases move with
  | checkout height proposal => rfl
  | serve session request => exact Desk.serve_settings ⟨e, session⟩ request
  | finish session cancelled => rfl
  | elsewhere errand => rfl

theorem moves_clean (clean : e.Clean) (history : List Move) : (e.moves history).Clean := by
  induction history generalizing e with
  | nil => exact clean
  | cons move rest ih => exact ih (move_clean clean move)

theorem moves_settings (e : Engine) (history : List Move) :
    (e.moves history).settings = e.settings := by
  induction history generalizing e with
  | nil => rfl
  | cons move rest ih => exact (ih (e.move move)).trans (move_settings e move)

end Engine

namespace Desk
variable {d d' : Desk} {before before' : List Processor}

theorem Alike.move (alike : Alike before before' d d') (move : Move) :
    Alike before before' (d.meet (.other move)) d' :=
  ⟨Engine.move_clean alike.clean move, alike.clean',
    (Engine.move_settings d.engine move).trans alike.settings, alike.session⟩

theorem Alike.meanwhile (alike : Alike before before' d d') (events : List Event) :
    d.meanwhile events = d'.transcript (events.filterMap Event.request?) ∧
      Alike before before' (d.through events) (d'.after (events.filterMap Event.request?)) := by
  induction events generalizing d d' with
  | nil => exact ⟨rfl, alike⟩
  | cons event rest ih =>
    cases event with
    | own request =>
      obtain ⟨answer, next⟩ := alike.serve request
      obtain ⟨answers, ending⟩ := ih next
      refine ⟨?_, ending⟩
      have first : (request, (d.serve request).1) = (request, (d'.serve request).1) := by rw [answer]
      exact List.cons_eq_cons.mpr ⟨first, answers⟩
    | other move => exact ih (alike.move move)

theorem through_kept (d : Desk) (events : List Event) :
    d.session.Kept (d.through events).session := by
  induction events generalizing d with
  | nil => exact .refl _
  | cons event rest ih =>
    cases event with
    | own request => exact (d.serve_kept request).trans (ih _)
    | other move => exact ih (d.meet (.other move))

end Desk

-- A session of an engine with any history behind it, of checkouts, calls, closes and
-- cancels on whatever sessions: it starts empty at its height and its proposal, and
-- whatever goes on around it, its calls answer and leave it as they do on a brand-new
-- engine. Every processor that serves it is bound to its height, to the reader of the call
-- and, if it is one for candidates, to the suffrage of its proposal.
theorem reuse_invisible (settings : Settings) (capacity processorCapacity : Nat)
    (history : List Move) (height : Height) (proposal : Option Proposal) (events : List Event)
    (freshCapacity freshProcessors : Nat) (errands : List Errand) :
    let used := Desk.checkout
      ((Engine.new settings capacity processorCapacity).moves history) height proposal
    let fresh := Desk.checkout
      ((Engine.new settings freshCapacity freshProcessors).moves (errands.map .elsewhere))
      height proposal
    let requests := events.filterMap Event.request?
    let now := used.through events
    (used.session.height = height ∧ used.session.proposal = proposal ∧
      used.session.claimCount = 0 ∧ used.session.trackedCount = 0) ∧
    used.meanwhile events = fresh.transcript requests ∧
    now.session = (fresh.after requests).session ∧
    ∀ op reader,
      (∃ fault, settings.find now.engine.workshop now.session op reader = .error fault) ∨
        ∃ maker told kind rest,
          settings.dispatch.choose settings.registry ⟨height, proposal, reader⟩ op =
            .ok (maker, told) ∧ maker.Makes ⟨height, told, reader⟩ kind ∧
          settings.find now.engine.workshop now.session op reader =
            .ok (Processor.serving kind height told reader, rest) ∧
          (settings.dispatch.ByHint → told = settings.registry.shown proposal op.hint) := by
  intro used fresh requests now
  have clean := Engine.moves_clean (Engine.new_clean settings capacity processorCapacity) history
  have clean' := Engine.moves_clean (Engine.new_clean settings freshCapacity freshProcessors)
    (errands.map .elsewhere)
  have kept : used.engine.settings = settings := Engine.moves_settings _ history
  have kept' : fresh.engine.settings = settings := Engine.moves_settings _ (errands.map .elsewhere)
  have start : used.session = ⟨height, proposal, some Tracker.empty, some []⟩ :=
    Engine.checkout_fresh clean height proposal
  have start' : fresh.session = ⟨height, proposal, some Tracker.empty, some []⟩ :=
    Engine.checkout_fresh clean' height proposal
  -- The two engines share nothing but their settings.
  have alike : Desk.Alike [] [] used fresh :=
    ⟨Engine.checkout_clean clean height proposal, Engine.checkout_clean clean' height proposal,
      kept.trans kept'.symm, .start (by rw [start, start']) (by rw [start]) (by rw [start'])⟩
  obtain ⟨answers, ending⟩ := alike.meanwhile events
  refine ⟨?_, answers, ending.session.eq, fun op reader => ?_⟩
  · rw [start]
    exact ⟨rfl, rfl, rfl, rfl⟩
  · have site := used.through_kept events
    have here : now.session.height = height := site.height_eq.trans (by rw [start])
    have there : now.session.proposal = proposal := site.proposal_eq.trans (by rw [start])
    rcases settings.find_decides now.session op reader with
      ⟨fault, refused⟩ | ⟨maker, told, kind, chosen, made, taken⟩
    · exact .inl ⟨fault, refused now.engine.workshop⟩
    · have served := (Workshop.take_clean ending.clean.processors kind height told reader).1
      rw [here, there] at chosen
      rw [here] at made
      refine .inr ⟨maker, told, kind, (now.engine.workshop.take kind height told reader).2, chosen,
        made, ?_, fun byHint => Registry.choose_told (byHint.chosen chosen)⟩
      rw [taken, here, ← served]

end SignedLedger

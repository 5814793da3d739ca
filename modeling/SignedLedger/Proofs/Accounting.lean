import SignedLedger.Proofs.Session.Release

-- The accounts of a session: the processors that it holds, what becomes of them at its
-- end, and what all of it leaves in the counters of the engine.
namespace SignedLedger

-- What the end of a session leaves of these processors. The lists of their types are longer
-- by as many as there are of the type, as far as the capacity allows, and no session that
-- waits holds any of them still.
structure Engine.Releases (before after : Engine) (processors : List Processor) : Prop where
  returned : ∀ kind, after.workshop.lists kind =
    (before.workshop.lists kind).refilled (Processor.idle (.builtIn kind))
      (processors.countP (Processor.isOf kind))
  parted : ∀ s ∈ after.sessions.idle, s.tracked = none

section Finish
variable {e : Engine} {s : Session} {processors : List Processor}

theorem Engine.finish_releases (clean : e.Clean) (held : s.tracked = some processors)
    (cancelled : Bool) : e.Releases (e.finish s cancelled) processors := by
  refine ⟨fun kind => ?_, fun idle waiting => ?_⟩
  · simp only [finish, held, Option.getD_some, Workshop.closeAll_lists]
  · rw [(finish_clean clean s cancelled).sessions idle waiting]
    rfl

theorem Engine.finish_closings (held : s.tracked = some processors) (cancelled : Bool) :
    (e.finish s cancelled).closings = e.closings ++ processors.map Processor.closed := by
  simp only [finish, held, Option.getD_some, Workshop.closeAll_closings]

end Finish

theorem Desk.through_clean {d : Desk} (clean : d.engine.Clean) (events : List Event) :
    (d.through events).engine.Clean := by
  induction events generalizing d with
  | nil => exact clean
  | cons event rest ih =>
    cases event with
    | own request => exact ih (serve_clean clean request)
    | other move => exact ih (d := d.meet (.other move)) (Engine.move_clean clean move)

theorem Check.executed_values {result : Check (List MergeValue)} {done : Outcome}
    (executed : result.executed = .ok done) (rejected : done.reason ≠ none) : done.values = [] := by
  cases result with
  | ok values =>
    cases executed
    exact absurd rfl rejected
  | error failure =>
    cases failure with
    | rejected reason =>
      cases executed
      rfl
    | failed fault => cases executed

theorem Desk.serve_values {d : Desk} {request : Request}
    (rejected : (d.serve request).1.reason? ≠ none) : (d.serve request).1.values = [] := by
  cases request with
  | enter ctx op reader => rfl
  | process ctx op reader =>
    simp only [serve] at rejected ⊢
    cases active : ctx.ensureActive with
    | error fault =>
      rw [Engine.process_stopped active]
      rfl
    | ok =>
      obtain ⟨answer, _⟩ := d.engine.process_active d.session op reader active
      rw [answer] at rejected ⊢
      cases executed : (runProcess d.engine.settings d.engine.workshop d.session ctx op
          reader).result.executed with
      | error fault => rfl
      | ok done =>
        rw [executed] at rejected
        exact Check.executed_values executed rejected

theorem Desk.meanwhile_values {d : Desk} {events : List Event} {entry : Request × Reply}
    (member : entry ∈ d.meanwhile events) (rejected : entry.2.reason? ≠ none) :
    entry.2.values = [] := by
  induction events generalizing d with
  | nil => cases member
  | cons event rest ih =>
    cases event with
    | own request =>
      rcases List.mem_cons.mp member with rfl | later
      · exact serve_values rejected
      · exact ih later
    | other move => exact ih member

-- A session is checked out of an engine with any history, and calls on it are made while
-- others use the engine. At every moment it holds the processors that its calls were
-- dispatched to, one for each such call whatever came of it, and no call gives one back.
-- What the engine closes up to the end of the session is what other sessions held that end
-- meanwhile, and then each processor of this one, once, whatever those before it answered
-- to being closed. From the checkout to the end each counter of the engine goes up by the
-- number of entries of its sort in the log: calls that were not cancelled beforehand,
-- rejections for a reason of the kind, and ends of sessions. What a call rejects writes
-- nothing.
theorem session_accounted (settings : Settings) (capacity processorCapacity : Nat)
    (history : List Move) (height : Height) (proposal : Option Proposal) (events : List Event)
    (cancelled : Bool) :
    let start := (Engine.new settings capacity processorCapacity).moves history
    let desk := Desk.checkout start height proposal
    let last := desk.through events
    let ended := last.engine.finish last.session cancelled
    let processors := desk.taken events
    (last.session.tracked = some processors ∧ last.session.trackedCount = processors.length) ∧
    (∀ request kind, ((last.serve request).2.engine.workshop.lists kind).idle <:+
      (last.engine.workshop.lists kind).idle) ∧
    ended.closings = start.closings ++ events.flatMap Event.closings ++
      processors.map Processor.closed ∧
    last.engine.Releases ended processors ∧
    start.metrics.Grown ended.metrics (desk.log events ++ [.ended cancelled]) ∧
    ∀ entry ∈ desk.meanwhile events, entry.2.reason? ≠ none → entry.2.values = [] := by
  intro start desk last ended processors
  have clean := Engine.moves_clean (Engine.new_clean settings capacity processorCapacity) history
  have empty : desk.session.tracked = some [] :=
    congrArg Session.tracked (Engine.checkout_fresh clean height proposal)
  have held : last.session.tracked = some processors := Desk.through_tracked empty events
  have before : last.engine.closings = start.closings ++ events.flatMap Event.closings :=
    desk.through_closings events
  have grown : start.metrics.Grown last.engine.metrics (desk.log events) :=
    desk.through_grown events
  refine ⟨⟨held, ?_⟩, last.serve_suffix, ?_, ?_, ?_, fun _ => Desk.meanwhile_values⟩
  · rw [Session.trackedCount, held]
    rfl
  · rw [Engine.finish_closings held, before]
  · exact Engine.finish_releases
      (Desk.through_clean (Engine.checkout_clean clean height proposal) events) held cancelled
  · exact grown.append (last.engine.metrics.countEnd_grown cancelled)

end SignedLedger

import SignedLedger.Proofs.Session.Reuse

-- What an engine goes through, as far as its counters can tell: the calls on its sessions,
-- with what they answer, and the ends of sessions. Each counter counts the entries of one
-- sort, whoever's session they are about.
namespace SignedLedger

def Reply.reason? : Reply → Option Reason
  | .admission (.ok (.rejected reason)) => some reason
  | .outcome (.ok done) => done.reason
  | _ => none

def Reply.values : Reply → List MergeValue
  | .outcome (.ok done) => done.values
  | _ => []

inductive LogEntry where
  | call (request : Request) (reply : Reply)
  | ended (cancelled : Bool)

namespace LogEntry

def enters : LogEntry → Bool
  | .call (.enter ctx _ _) _ => !ctx.cancelled
  | _ => false

def processes : LogEntry → Bool
  | .call (.process ctx _ _) _ => !ctx.cancelled
  | _ => false

def rejectsFor (kind : ReasonKind) : LogEntry → Bool
  | .call _ reply => decide (reply.reason?.map Reason.kind = some kind)
  | .ended _ => false

def endsBy (cancelled : Bool) : LogEntry → Bool
  | .call _ _ => false
  | .ended how => how == cancelled

end LogEntry

structure Metrics.Grown (before after : Metrics) (log : List LogEntry) : Prop where
  preprocess : after.preprocess = before.preprocess + log.countP LogEntry.enters
  process : after.process = before.process + log.countP LogEntry.processes
  rejected : ∀ kind,
    after.rejected kind = before.rejected kind + log.countP (LogEntry.rejectsFor kind)
  closed : after.closed = before.closed + log.countP (LogEntry.endsBy false)
  cancelled : after.cancelled = before.cancelled + log.countP (LogEntry.endsBy true)

namespace Metrics

theorem Grown.refl (a : Metrics) : a.Grown a [] := ⟨rfl, rfl, fun _ => rfl, rfl, rfl⟩

theorem Grown.append {a b c : Metrics} {log more : List LogEntry} (one : a.Grown b log)
    (two : b.Grown c more) : a.Grown c (log ++ more) where
  preprocess := by rw [two.preprocess, one.preprocess, List.countP_append, Nat.add_assoc]
  process := by rw [two.process, one.process, List.countP_append, Nat.add_assoc]
  rejected kind := by rw [two.rejected, one.rejected, List.countP_append, Nat.add_assoc]
  closed := by rw [two.closed, one.closed, List.countP_append, Nat.add_assoc]
  cancelled := by rw [two.cancelled, one.cancelled, List.countP_append, Nat.add_assoc]

def countCall (m : Metrics) : Request → Metrics
  | .enter ctx _ _ => if ctx.cancelled then m else m.countPreprocess
  | .process ctx _ _ => if ctx.cancelled then m else m.countProcess

theorem countReason_rejected (m : Metrics) (rejection : Option Reason) (kind : ReasonKind) :
    (m.countReason rejection).rejected kind =
      m.rejected kind + if rejection.map Reason.kind = some kind then 1 else 0 := by
  cases rejection with
  | none => rfl
  | some reason =>
    by_cases same : kind = reason.kind
    · simp [countReason, countRejection, same]
    · simp [countReason, countRejection, same, Ne.symm same]

theorem countReason_others (m : Metrics) (rejection : Option Reason) :
    (m.countReason rejection).preprocess = m.preprocess ∧
      (m.countReason rejection).process = m.process ∧
      (m.countReason rejection).closed = m.closed ∧
      (m.countReason rejection).cancelled = m.cancelled := by
  cases rejection with
  | none => exact ⟨rfl, rfl, rfl, rfl⟩
  | some reason => exact ⟨rfl, rfl, rfl, rfl⟩

theorem countCall_parts (m : Metrics) (request : Request) (reply : Reply) :
    (m.countCall request).preprocess =
        m.preprocess + [LogEntry.call request reply].countP LogEntry.enters ∧
      (m.countCall request).process =
        m.process + [LogEntry.call request reply].countP LogEntry.processes ∧
      (m.countCall request).rejected = m.rejected ∧
      (m.countCall request).closed = m.closed ∧ (m.countCall request).cancelled = m.cancelled := by
  cases request with
  | enter ctx op reader =>
    cases cancelled : ctx.cancelled with
    | true => simp [countCall, LogEntry.enters, LogEntry.processes, cancelled]
    | false => simp [countCall, countPreprocess, LogEntry.enters, LogEntry.processes, cancelled]
  | process ctx op reader =>
    cases cancelled : ctx.cancelled with
    | true => simp [countCall, LogEntry.enters, LogEntry.processes, cancelled]
    | false => simp [countCall, countProcess, LogEntry.enters, LogEntry.processes, cancelled]

theorem call_grown (m : Metrics) (request : Request) (reply : Reply) :
    m.Grown ((m.countCall request).countReason reply.reason?) [.call request reply] := by
  obtain ⟨preprocess, process, closed, cancelled⟩ :=
    (m.countCall request).countReason_others reply.reason?
  have parts := m.countCall_parts request reply
  constructor
  · rw [preprocess, parts.1]
  · rw [process, parts.2.1]
  · intro kind
    rw [countReason_rejected, parts.2.2.1]
    simp [LogEntry.rejectsFor, List.countP_singleton]
  · rw [closed, parts.2.2.2.1]
    rfl
  · rw [cancelled, parts.2.2.2.2]
    rfl

theorem countEnd_grown (m : Metrics) (cancelled : Bool) :
    m.Grown (m.countEnd cancelled) [.ended cancelled] := by
  cases cancelled with
  | false => exact ⟨rfl, rfl, fun _ => rfl, rfl, rfl⟩
  | true => exact ⟨rfl, rfl, fun _ => rfl, rfl, rfl⟩

end Metrics

theorem Reply.reason_admission {α : Type} (result : Check α) :
    (Reply.admission result.admission).reason? = result.reason? := by
  cases result with
  | ok a => rfl
  | error failure =>
    cases failure with
    | rejected reason => rfl
    | failed fault => rfl

theorem Reply.reason_executed (result : Check (List MergeValue)) :
    (Reply.outcome result.executed).reason? = result.reason? := by
  cases result with
  | ok values => rfl
  | error failure =>
    cases failure with
    | rejected reason => rfl
    | failed fault => rfl

theorem Context.ensureActive_ok {ctx : Context} :
    ctx.ensureActive = .ok () ↔ ctx.cancelled = false := by
  unfold ensureActive
  cases ctx.cancelled with
  | true => simp
  | false => simp

theorem Context.ensureActive_error {ctx : Context} {fault : Fault}
    (stopped : ctx.ensureActive = .error fault) : ctx.cancelled = true := by
  unfold ensureActive at stopped
  cases cancelled : ctx.cancelled with
  | true => rfl
  | false => simp [cancelled] at stopped

def Request.cancelled : Request → Bool
  | .enter ctx _ _ => ctx.cancelled
  | .process ctx _ _ => ctx.cancelled

theorem Metrics.countCall_cancelled (m : Metrics) {request : Request}
    (cancelled : request.cancelled = true) : m.countCall request = m := by
  cases request with
  | enter ctx op reader => exact if_pos cancelled
  | process ctx op reader => exact if_pos cancelled

namespace Desk

def worked (d : Desk) : Request → Workshop × Session
  | .enter ctx op reader =>
    let step := runPreProcess d.engine.settings d.engine.workshop d.session ctx op reader
    (step.workshop, step.session)
  | .process ctx op reader =>
    let step := runProcess d.engine.settings d.engine.workshop d.session ctx op reader
    (step.workshop, step.session)

-- A call that is cancelled beforehand does nothing. Any other one changes the workshop
-- and the counters of the engine, and nothing else there.
theorem serve_cases (d : Desk) (request : Request) :
    (request.cancelled = true ∧ (d.serve request).1.reason? = none ∧ (d.serve request).2 = d) ∨
    (request.cancelled = false ∧ (d.serve request).2 =
      ⟨{ d.engine with
          metrics := (d.engine.metrics.countCall request).countReason (d.serve request).1.reason?
          workshop := (d.worked request).1 }, (d.worked request).2⟩) := by
  cases request with
  | enter ctx op reader =>
    simp only [serve]
    cases active : ctx.ensureActive with
    | error fault =>
      rw [Engine.preProcess_stopped active]
      exact .inl ⟨Context.ensureActive_error active, rfl, rfl⟩
    | ok =>
      have wanted := Context.ensureActive_ok.mp active
      obtain ⟨answer, session, left⟩ := d.engine.preProcess_active d.session op reader active
      refine .inr ⟨wanted, ?_⟩
      rw [left, session, answer, Reply.reason_admission]
      simp only [Metrics.countCall, wanted, Bool.false_eq_true, if_false, worked]
  | process ctx op reader =>
    simp only [serve]
    cases active : ctx.ensureActive with
    | error fault =>
      rw [Engine.process_stopped active]
      exact .inl ⟨Context.ensureActive_error active, rfl, rfl⟩
    | ok =>
      have wanted := Context.ensureActive_ok.mp active
      obtain ⟨answer, session, left⟩ := d.engine.process_active d.session op reader active
      refine .inr ⟨wanted, ?_⟩
      rw [left, session, answer, Reply.reason_executed]
      simp only [Metrics.countCall, wanted, Bool.false_eq_true, if_false, worked]

theorem serve_metrics (d : Desk) (request : Request) :
    (d.serve request).2.engine.metrics =
      (d.engine.metrics.countCall request).countReason (d.serve request).1.reason? := by
  rcases d.serve_cases request with ⟨cancelled, silent, same⟩ | ⟨_, left⟩
  · rw [silent, same, Metrics.countCall_cancelled _ cancelled]
    rfl
  · rw [left]

end Desk

theorem Desk.serve_grown (d : Desk) (request : Request) :
    d.engine.metrics.Grown (d.serve request).2.engine.metrics
      [.call request (d.serve request).1] := by
  rw [serve_metrics]
  exact d.engine.metrics.call_grown request _

def Engine.note (e : Engine) : Move → List LogEntry
  | .checkout _ _ => []
  | .serve session request => [.call request (Desk.serve ⟨e, session⟩ request).1]
  | .finish _ cancelled => [.ended cancelled]
  | .elsewhere _ => []

theorem Engine.move_grown (e : Engine) (move : Move) :
    e.metrics.Grown (e.move move).metrics (e.note move) := by
  cases move with
  | checkout height proposal => exact .refl e.metrics
  | serve session request => exact Desk.serve_grown ⟨e, session⟩ request
  | finish session cancelled => exact e.metrics.countEnd_grown cancelled
  | elsewhere errand => exact .refl e.metrics

namespace Desk

def note (d : Desk) : Event → List LogEntry
  | .own request => [.call request (d.serve request).1]
  | .other move => d.engine.note move

def log (d : Desk) : List Event → List LogEntry
  | [] => []
  | event :: rest => d.note event ++ (d.meet event).log rest

theorem meet_grown (d : Desk) (event : Event) :
    d.engine.metrics.Grown (d.meet event).engine.metrics (d.note event) := by
  cases event with
  | own request => exact d.serve_grown request
  | other move => exact d.engine.move_grown move

theorem through_grown (d : Desk) (events : List Event) :
    d.engine.metrics.Grown (d.through events).engine.metrics (d.log events) := by
  induction events generalizing d with
  | nil => exact .refl d.engine.metrics
  | cons event rest ih => exact (d.meet_grown event).append (ih (d.meet event))

end Desk
end SignedLedger

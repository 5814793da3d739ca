import SignedLedger.Proofs.Session.Standing

-- The answers of a session that has not ended, as functions of its site. What a call
-- about the effects of an operation answers depends on nothing else; only an admission
-- also looks at the claims.
namespace SignedLedger
open Check

-- Sessions from their checkout on, through any calls made on them on whatever engine of
-- the same settings. There is no step past the end: a session that ends is given away.
inductive Session.Live (settings : Settings) (height : Height) (proposal : Option Proposal) :
    Session → Prop where
  | checkout {e : Engine} (path : Engine.Reachable settings e) :
      Live settings height proposal (e.checkout height proposal).1
  | preProcess {e : Engine} {s : Session} (path : Engine.Reachable settings e)
      (live : Live settings height proposal s) (ctx : Context) (op : Operation) (reader : Reader) :
      Live settings height proposal (e.preProcess s ctx op reader).session
  | process {e : Engine} {s : Session} (path : Engine.Reachable settings e)
      (live : Live settings height proposal s) (ctx : Context) (op : Operation) (reader : Reader) :
      Live settings height proposal (e.process s ctx op reader).session

structure Session.Open (height : Height) (proposal : Option Proposal) (s : Session) : Prop where
  height_eq : s.height = height
  proposal_eq : s.proposal = proposal
  tracker : s.tracker.isSome = true
  tracked : s.tracked.isSome = true

theorem Session.Open.kept {height : Height} {proposal : Option Proposal} {s s' : Session}
    (opened : s.Open height proposal) (kept : s.Kept s') : s'.Open height proposal :=
  ⟨kept.height_eq.trans opened.height_eq, kept.proposal_eq.trans opened.proposal_eq,
    kept.tracker opened.tracker, kept.tracked opened.tracked⟩

theorem Session.Live.opened {settings : Settings} {height : Height} {proposal : Option Proposal}
    {s : Session} (live : s.Live settings height proposal) : s.Open height proposal := by
  induction live with
  | checkout path =>
    rw [Engine.checkout_fresh (Engine.reachable_clean path)]
    exact ⟨rfl, rfl, rfl, rfl⟩
  | preProcess _ _ ctx op reader ih => exact ih.kept (Engine.preProcess_kept _ _ ctx op reader)
  | process _ _ ctx op reader ih => exact ih.kept (Engine.process_kept _ _ ctx op reader)

theorem Settings.standing_parts {settings : Settings} {height : Height}
    {proposal : Option Proposal} {ctx : Context} {op : Operation} {reader : Reader}
    (stands : settings.standing height proposal ctx op reader = .ok ()) :
    checkForm settings op = .ok () ∧ checkEntry settings.network op reader = .ok () ∧
      ∃ processor, settings.server height proposal reader op = .ok processor ∧
        processor.permit op = .ok () := by
  unfold standing permission at stands
  simp only [bind_ok, lift_ok] at stands
  obtain ⟨_, _, _, form, processor, served, _, entry, _, _, _, permitted, _⟩ := stands
  exact ⟨form, entry, processor, served, permitted⟩

def Settings.execution (settings : Settings) (height : Height) (proposal : Option Proposal)
    (ctx : Context) (op : Operation) (reader : Reader) : Check (List MergeValue) := do
  ctx.ensureActive
  let processor ← settings.server height proposal reader op
  outcome processor ctx op reader

theorem Engine.runProcess_execution {w : Workshop} {s : Session} {ctx : Context} (clean : w.Clean)
    (opened : s.tracked.isSome = true) (active : ctx.ensureActive = .ok ()) (settings : Settings)
    (op : Operation) (reader : Reader) :
    (runProcess settings w s ctx op reader).result =
      settings.execution s.height s.proposal ctx op reader := by
  unfold runProcess Settings.execution
  rw [active]
  rcases Settings.find_served clean settings s op reader with
    ⟨fault, refused, unserved⟩ | ⟨processor, rest, found, served⟩
  · rw [refused, unserved]
    rfl
  · rw [found, served]
    exact trackAnd_result _ _ opened

namespace Session.Live
variable {settings : Settings} {height : Height} {proposal : Option Proposal} {s : Session}
  {e : Engine}

theorem preProcess_answer (live : s.Live settings height proposal)
    (path : Engine.Reachable settings e) (ctx : Context) (op : Operation) (reader : Reader) :
    ∃ tracker, s.tracker = some tracker ∧
      (e.preProcess s ctx op reader).answer =
        (settings.standing height proposal ctx op reader >>= fun _ =>
          (settings.duplication.check tracker op).1).admission := by
  obtain ⟨rfl, rfl, tracker, tracked⟩ := live.opened
  obtain ⟨held, found⟩ := Option.isSome_iff_exists.mp tracker
  have ready : Desk.Ready ⟨e, s⟩ := ⟨Engine.reachable_clean path, tracked⟩
  have served := Desk.serve_enter ready found ctx op reader
  rw [Engine.reachable_settings path] at served
  rcases served with ⟨stands, answer, _⟩ | ⟨failure, refused, answer, _⟩
  · exact ⟨held, found, by rw [stands]; exact Reply.admission.inj answer⟩
  · exact ⟨held, found, by rw [refused]; exact Reply.admission.inj answer⟩

theorem process_answer (live : s.Live settings height proposal)
    (path : Engine.Reachable settings e) (ctx : Context) (op : Operation) (reader : Reader) :
    (e.process s ctx op reader).answer =
      (settings.execution height proposal ctx op reader).executed := by
  obtain ⟨rfl, rfl, _, tracked⟩ := live.opened
  have same := Engine.reachable_settings path
  cases active : ctx.ensureActive with
  | error fault =>
    rw [Engine.process_stopped active]
    simp only [Settings.execution, active]
    rfl
  | ok =>
    rw [(e.process_active s op reader active).1, same, Engine.runProcess_execution
      (Engine.reachable_clean path).processors tracked active]

end Session.Live
end SignedLedger

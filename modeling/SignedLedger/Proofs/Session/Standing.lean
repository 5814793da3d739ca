import SignedLedger.Proofs.Session.Served

-- What an admission asks of an operation, the claims apart. It follows from the
-- settings, the site of the session and the reader; only the check of the claims looks
-- at what the session has admitted before.
namespace SignedLedger
open Check

def Settings.standing (settings : Settings) (height : Height) (proposal : Option Proposal)
    (ctx : Context) (op : Operation) (reader : Reader) : Check Unit := do
  ctx.ensureActive
  checkForm settings op
  let processor ← settings.server height proposal reader op
  permission settings processor ctx op reader

-- Past the standing an admission comes down to the claims, and it leaves the tracker that
-- their check leaves. What does not stand leaves the tracker alone.
theorem Engine.runPreProcess_standing {settings : Settings} {w : Workshop} {s : Session}
    {ctx : Context} {tracker : Tracker} (clean : w.Clean) (opened : s.tracked.isSome = true)
    (tracked : s.tracker = some tracker) (active : ctx.ensureActive = .ok ()) (op : Operation)
    (reader : Reader) :
    let standing := settings.standing s.height s.proposal ctx op reader
    let checked := settings.duplication.check tracker op
    let step := runPreProcess settings w s ctx op reader
    (standing = .ok () ∧ step.result = checked.1 ∧ step.session.tracker = some checked.2) ∨
      ∃ failure, standing = .error failure ∧ step.result = .error failure ∧
        step.session.tracker = some tracker := by
  intro standing checked step
  simp only [standing, checked, step]
  unfold runPreProcess Settings.standing
  rw [active]
  cases checkForm settings op with
  | error failure => exact .inr ⟨failure, rfl, rfl, tracked⟩
  | ok =>
    rcases Settings.find_served clean settings s op reader with
      ⟨fault, refused, unserved⟩ | ⟨processor, rest, found, served⟩
    · rw [refused, unserved]
      exact .inr ⟨.failed fault, rfl, rfl, tracked⟩
    · rw [found, served]
      dsimp only
      have left {t : Session} {result : Check Unit} : (trackAnd t rest processor
          result).session.tracker = t.tracker := (congrArg Session.tracker (trackAnd_blank _ _) :)
      have opened' := (admission_kept settings s processor ctx op reader).tracked opened
      rw [left, trackAnd_result _ _ opened']
      unfold admission Session.requireTracker
      rw [tracked]
      cases permitted : permission settings processor ctx op reader with
      | error failure => exact .inr ⟨failure, permitted, rfl, tracked⟩
      | ok => exact .inl ⟨permitted, rfl, rfl⟩

theorem Desk.serve_enter {d : Desk} {tracker : Tracker} (ready : d.Ready)
    (tracked : d.session.tracker = some tracker) (ctx : Context) (op : Operation)
    (reader : Reader) :
    let standing := d.engine.settings.standing d.session.height d.session.proposal ctx op reader
    let checked := d.engine.settings.duplication.check tracker op
    let served := d.serve (.enter ctx op reader)
    (standing = .ok () ∧ served.1 = .admission checked.1.admission ∧
        served.2.session.tracker = some checked.2) ∨
      ∃ failure : Failure, standing = .error failure ∧
        served.1 = .admission (Check.admission (.error failure : Check Unit)) ∧
        served.2.session.tracker = some tracker := by
  intro standing checked served
  simp only [served, serve]
  cases active : ctx.ensureActive with
  | error fault =>
    refine .inr ⟨.failed fault, ?_, ?_, ?_⟩
    · simp only [standing, Settings.standing, active]
      rfl
    · rw [Engine.preProcess_stopped active]
      rfl
    · rw [Engine.preProcess_stopped active]
      exact tracked
  | ok =>
    obtain ⟨answer, session, _⟩ := d.engine.preProcess_active d.session op reader active
    rw [answer, session]
    rcases Engine.runPreProcess_standing ready.clean.processors ready.opened tracked active op
      reader with ⟨stands, result, left⟩ | ⟨failure, refused, result, left⟩
    · exact .inl ⟨stands, by rw [result], left⟩
    · exact .inr ⟨failure, refused, by rw [result], left⟩

end SignedLedger

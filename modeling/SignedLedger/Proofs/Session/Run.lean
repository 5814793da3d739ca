import SignedLedger.Proofs.Session.Answers

-- Runs of one session: the calls that are made on it, one after another, and what
-- each of them answers. A call that does not admit can be left out of a run, and
-- no other answer changes.
namespace SignedLedger

structure Desk where
  engine : Engine
  session : Session

inductive Request where
  | enter (ctx : Context) (op : Operation) (reader : Reader)
  | process (ctx : Context) (op : Operation) (reader : Reader)

inductive Reply where
  | admission (answer : Except Fault Admission)
  | outcome (answer : Except Fault Outcome)
  deriving DecidableEq

def admitted? : Request × Reply → Option Operation
  | (.enter _ op _, .admission (.ok .admitted)) => some op
  | _ => none

def admittedOf (record : List (Request × Reply)) : List Operation := record.filterMap admitted?

theorem admitted_exact {request : Request} {reply : Reply} {op : Operation} :
    admitted? (request, reply) = some op ↔
      (∃ ctx reader, request = .enter ctx op reader) ∧ reply = .admission (.ok .admitted) := by
  constructor
  · intro admitted
    unfold admitted? at admitted
    split at admitted
    · rename_i entry
      cases entry
      cases admitted
      exact ⟨⟨_, _, rfl⟩, rfl⟩
    · cases admitted
  · rintro ⟨⟨ctx, reader, rfl⟩, rfl⟩
    rfl

namespace Desk

def checkout (e : Engine) (height : Height) (proposal : Option Proposal) : Desk :=
  ⟨(e.checkout height proposal).2, (e.checkout height proposal).1⟩

def serve (d : Desk) : Request → Reply × Desk
  | .enter ctx op reader =>
    let call := d.engine.preProcess d.session ctx op reader
    (.admission call.answer, ⟨call.engine, call.session⟩)
  | .process ctx op reader =>
    let call := d.engine.process d.session ctx op reader
    (.outcome call.answer, ⟨call.engine, call.session⟩)

def transcript (d : Desk) : List Request → List (Request × Reply)
  | [] => []
  | request :: rest => (request, (d.serve request).1) :: (d.serve request).2.transcript rest

def after (d : Desk) (requests : List Request) : Desk :=
  requests.foldl (fun desk request => (desk.serve request).2) d

structure Ready (d : Desk) : Prop where
  clean : d.engine.Clean
  opened : d.session.tracked.isSome = true

-- Desks that answer alike: what their engines went through does not count, nor which
-- processors their sessions had before.
structure Alike (before before' : List Processor) (d d' : Desk) : Prop where
  clean : d.engine.Clean
  clean' : d'.engine.Clean
  settings : d.engine.settings = d'.engine.settings
  session : d.session.Same before before' d'.session

variable {d d' : Desk} {before before' : List Processor}

theorem Ready.alike (ready : d.Ready) : ∃ before, Alike before before d d := by
  obtain ⟨before, held⟩ := Option.isSome_iff_exists.mp ready.opened
  exact ⟨before, ready.clean, ready.clean, rfl, .start rfl held held⟩

theorem checkout_ready {e : Engine} (clean : e.Clean) (height : Height)
    (proposal : Option Proposal) : (checkout e height proposal).Ready := by
  refine ⟨Engine.checkout_clean clean height proposal, ?_⟩
  simp only [checkout, Engine.checkout_fresh clean, Option.isSome_some]

theorem serve_kept (d : Desk) (request : Request) : d.session.Kept (d.serve request).2.session := by
  cases request with
  | enter ctx op reader => exact Engine.preProcess_kept _ _ _ _ _
  | process ctx op reader => exact Engine.process_kept _ _ _ _ _

theorem serve_clean (clean : d.engine.Clean) (request : Request) :
    (d.serve request).2.engine.Clean := by
  cases request with
  | enter ctx op reader => exact Engine.preProcess_clean clean _ _ _ _
  | process ctx op reader => exact Engine.process_clean clean _ _ _ _

theorem serve_ready (ready : d.Ready) (request : Request) : (d.serve request).2.Ready :=
  ⟨serve_clean ready.clean request, (d.serve_kept request).tracked ready.opened⟩

theorem serve_settings (d : Desk) (request : Request) :
    (d.serve request).2.engine.settings = d.engine.settings := by
  cases request with
  | enter ctx op reader => exact Engine.preProcess_settings _ _ _ _
  | process ctx op reader => exact Engine.process_settings _ _ _ _

theorem after_cons (d : Desk) (request : Request) (rest : List Request) :
    d.after (request :: rest) = (d.serve request).2.after rest := rfl

theorem serve_inert (atomic : d.engine.settings.duplication.Atomic)
    (opened : d.session.tracked.isSome = true) {request : Request}
    (inert : admitted? (request, (d.serve request).1) = none) :
    (d.serve request).2.session.blank = d.session.blank := by
  cases request with
  | enter ctx op reader =>
    refine Engine.preProcess_refused atomic opened fun admitted => ?_
    simp only [serve, admitted, admitted?] at inert
    cases inert
  | process ctx op reader => exact Engine.process_blank _ _ _ _ _

theorem Alike.serve (alike : Alike before before' d d') (request : Request) :
    (d.serve request).1 = (d'.serve request).1 ∧
      Alike before before' (d.serve request).2 (d'.serve request).2 := by
  obtain ⟨clean, clean', settings, session⟩ := alike
  have kept : (d.serve request).2.engine.settings = (d'.serve request).2.engine.settings := by
    rw [serve_settings, serve_settings, settings]
  cases request with
  | enter ctx op reader =>
    obtain ⟨answer, left⟩ := Engine.preProcess_same clean clean' settings session ctx op reader
    exact ⟨congrArg Reply.admission answer, serve_clean clean _, serve_clean clean' _, kept, left⟩
  | process ctx op reader =>
    obtain ⟨answer, left⟩ := Engine.process_same clean clean' settings session ctx op reader
    exact ⟨congrArg Reply.outcome answer, serve_clean clean _, serve_clean clean' _, kept, left⟩

-- A call that only the first of them serves, and that leaves what its session knows.
theorem Alike.ahead (alike : Alike before before' d d') {request : Request}
    (known : (d.serve request).2.session.blank = d.session.blank) :
    ∃ more more', Alike more more' (d.serve request).2 d' := by
  obtain ⟨clean, clean', settings, session⟩ := alike
  have opened := (d.serve_kept request).tracked session.opened
  obtain ⟨same, common, _, held'⟩ := session
  obtain ⟨more, held⟩ := Option.isSome_iff_exists.mp opened
  refine ⟨more, before' ++ common, serve_clean clean request, clean', ?_, ?_⟩
  · rw [serve_settings, settings]
  · exact .start (known.trans same) held held'

end Desk

inductive Thinned : List (Request × Reply) → List (Request × Reply) → Prop where
  | nil : Thinned [] []
  | keep (entry : Request × Reply) (rest : Thinned record thinned) :
      Thinned (entry :: record) (entry :: thinned)
  | drop (inert : admitted? entry = none) (rest : Thinned record thinned) :
      Thinned (entry :: record) thinned

namespace Desk
variable {d d' : Desk} {before before' : List Processor}

-- The simulation behind it: the two desks stay alike, whether an entry is served by
-- both or by the first one only.
theorem transcript_thinned (atomic : d.engine.settings.duplication.Atomic)
    (alike : Alike before before' d d') {requests : List Request}
    {thinned : List (Request × Reply)} (kept : Thinned (d.transcript requests) thinned) :
    d'.transcript (thinned.map Prod.fst) = thinned := by
  induction requests generalizing d d' before before' thinned with
  | nil =>
    cases kept
    rfl
  | cons request rest ih =>
    have later : (d.serve request).2.engine.settings.duplication.Atomic := by
      rwa [serve_settings]
    rw [transcript] at kept
    cases kept with
    | keep _ kept =>
      obtain ⟨answer, next⟩ := alike.serve request
      simp only [List.map_cons, transcript, ← answer, ih later next kept]
    | drop inert kept =>
      obtain ⟨_, _, next⟩ := alike.ahead (serve_inert atomic alike.session.opened inert)
      exact ih later next kept

end Desk
end SignedLedger

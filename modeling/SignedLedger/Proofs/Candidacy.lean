import Mathlib.Data.List.Perm.Subperm
import SignedLedger.Proofs.Sample
import SignedLedger.Proofs.Session.Execution
import SignedLedger.Proofs.Session.Registry
import SignedLedger.Proofs.Session.Reuse

-- Candidacies. Each one is weighed against the candidates that its reader lists, and
-- against nothing else: a session does not count those it has admitted. The limit holds
-- over a whole session when the readers list them, which is for the consensus layer to do.
namespace SignedLedger
open Check

structure Candidate.Fits (committed suffrage : List Address) (a : Address) : Prop where
  outside : a ∉ suffrage
  fresh : a ∉ committed
  room : committed.length < suffrage.length

theorem Candidate.permit_exact {f : Candidate} {reader : Reader} {suffrage : List Address} :
    f.permit reader suffrage = .ok () ↔
      ∃ committed, Lookup.suffrageCandidates reader = .ok committed ∧
        Fits committed suffrage f.candidate := by
  unfold permit
  simp only [bind_ok, lift_ok, require_ok, Bool.not_eq_true', List.contains_eq_mem,
    decide_eq_false_iff_not, decide_eq_true_eq, Nat.succ_le_iff]
  constructor
  · rintro ⟨committed, listed, _, outside, _, fresh, room⟩
    exact ⟨committed, listed, outside, fresh, room⟩
  · rintro ⟨committed, listed, outside, fresh, room⟩
    exact ⟨committed, listed, (), outside, (), fresh, room⟩

def Operation.candidate? (op : Operation) : Option Address :=
  match op.fact with
  | .candidate f => some f.candidate
  | _ => none

theorem Operation.candidate_exact {op : Operation} {a : Address} :
    op.candidate? = some a ↔ ∃ f, op.fact = .candidate f ∧ f.candidate = a := by
  unfold candidate?
  cases op.fact <;> simp

def candidatesOf (record : List (Request × Reply)) : List Address :=
  (admittedOf record).filterMap Operation.candidate?

theorem candidatesOf_cons (entry : Request × Reply) (record : List (Request × Reply)) :
    candidatesOf (entry :: record) = candidatesOf [entry] ++ candidatesOf record := by
  unfold candidatesOf admittedOf
  rw [← List.filterMap_append, ← List.filterMap_append]
  rfl

section Standing
variable {settings : Settings} {height : Height} {proposal : Proposal} {ctx : Context}
  {op : Operation} {reader : Reader} {processor : Processor} {a : Address}

-- A candidacy that stands makes no claims and fits beside the candidates of its reader.
theorem Settings.standing_candidacy (standard : settings.registry = Registry.standard)
    (byHint : settings.dispatch.ByHint) (candidacy : op.candidate? = some a)
    (stands : settings.standing height (some proposal) ctx op reader = .ok ()) :
    op.hint.isExempt = true ∧
      ∃ committed, Lookup.suffrageCandidates reader = .ok committed ∧
        Candidate.Fits committed proposal.suffrage a := by
  obtain ⟨f, held, rfl⟩ := Operation.candidate_exact.mp candidacy
  obtain ⟨_, _, processor, served, permitted⟩ := standing_parts stands
  obtain ⟨kind, told, rfl, named, shown⟩ := standard_serving standard byHint served
  have typed := Processor.permit_kind rfl permitted
  rw [held] at typed
  cases typed
  cases shown rfl
  refine ⟨?_, ?_⟩
  · rw [Hint.isExempt, named]
    decide
  · unfold Processor.permit at permitted
    simp only [Processor.serving, held, bind_ok, lift_ok] at permitted
    obtain ⟨bound, found, permitted⟩ := permitted
    cases found
    exact Candidate.permit_exact.mp permitted

theorem DuplicationRule.ByHint.exempt {rule : DuplicationRule} (byHint : rule.ByHint)
    (tracker : Tracker) (exempt : op.hint.isExempt = true) : (rule.check tracker op).1 = .ok () := by
  obtain ⟨minds, exact⟩ := byHint
  rw [exact]
  split
  · unfold checkDuplication
    rw [if_pos exempt]
  · rfl

end Standing

structure Desk.At (settings : Settings) (height : Height) (proposal : Option Proposal) (d : Desk) :
    Prop where
  path : Engine.Reachable settings d.engine
  live : d.session.Live settings height proposal

namespace Desk
variable {settings : Settings} {height : Height} {proposal : Option Proposal} {d : Desk}

theorem checkout_at {e : Engine} (path : Engine.Reachable settings e) (height : Height)
    (proposal : Option Proposal) : (checkout e height proposal).At settings height proposal :=
  ⟨.checkout path height proposal, .checkout path⟩

theorem At.serve (opened : d.At settings height proposal) (request : Request) :
    (d.serve request).2.At settings height proposal := by
  cases request with
  | enter ctx op reader =>
    exact ⟨.preProcess opened.path d.session ctx op reader,
      .preProcess opened.path opened.live ctx op reader⟩
  | process ctx op reader =>
    exact ⟨.process opened.path d.session ctx op reader,
      .process opened.path opened.live ctx op reader⟩

theorem At.answered (opened : d.At settings height proposal) {requests : List Request}
    {request : Request} {reply : Reply} (member : (request, reply) ∈ d.transcript requests) :
    ∃ now : Desk, now.At settings height proposal ∧ (now.serve request).1 = reply := by
  induction requests generalizing d with
  | nil => cases member
  | cons first rest ih =>
    rcases List.mem_cons.mp member with here | later
    · cases here
      exact ⟨d, opened, rfl⟩
    · exact ih (opened.serve first) later

theorem At.admits_candidacy {proposal : Proposal} (opened : d.At settings height (some proposal))
    (standard : settings.registry = Registry.standard) (byHint : settings.ByHint) {ctx : Context}
    {op : Operation} {reader : Reader} {a : Address} (candidacy : op.candidate? = some a) :
    (d.serve (.enter ctx op reader)).1 = .admission (.ok .admitted) ↔
      settings.standing height (some proposal) ctx op reader = .ok () := by
  obtain ⟨tracker, _, answer⟩ := opened.live.preProcess_answer opened.path ctx op reader
  have served : (d.serve (.enter ctx op reader)).1 = .admission _ :=
    congrArg Reply.admission answer
  rw [served, Reply.admission.injEq, Check.admission_admitted]
  simp only [bind_ok]
  constructor
  · rintro ⟨_, _, stands, _⟩
    exact stands
  · intro stands
    have exempt := (Settings.standing_candidacy standard byHint.dispatch candidacy stands).1
    exact ⟨(), (), stands, byHint.duplication.exempt tracker exempt⟩

theorem At.candidacy_fits {proposal : Proposal} (opened : d.At settings height (some proposal))
    (standard : settings.registry = Registry.standard) (byHint : settings.ByHint) {ctx : Context}
    {op : Operation} {reader : Reader} {a : Address} (candidacy : op.candidate? = some a)
    (admitted : (d.serve (.enter ctx op reader)).1 = .admission (.ok .admitted)) :
    ∃ committed, Lookup.suffrageCandidates reader = .ok committed ∧
      Candidate.Fits committed proposal.suffrage a :=
  (Settings.standing_candidacy standard byHint.dispatch candidacy
    ((opened.admits_candidacy standard byHint candidacy).mp admitted)).2

end Desk

-- Readers that keep up with a session: whenever a candidacy is put to it, they list at
-- least the candidates there were before it and those it has admitted so far.
inductive Recorded : List Address → List (Request × Reply) → Prop where
  | nil : Recorded listed []
  | cons
      (lists : ∀ ctx op reader, request = .enter ctx op reader → op.candidate?.isSome = true →
        ∀ committed, Lookup.suffrageCandidates reader = .ok committed → listed.Subperm committed)
      (rest : Recorded (listed ++ candidatesOf [(request, reply)]) record) :
      Recorded listed ((request, reply) :: record)

structure Bounded (size : Nat) (listed admitted : List Address) : Prop where
  within : listed.length + admitted.length ≤ size
  distinct : admitted.Nodup
  fresh : ∀ a ∈ admitted, a ∉ listed

namespace Desk
variable {settings : Settings} {height : Height} {proposal : Proposal} {d : Desk}

theorem At.serve_bounded (opened : d.At settings height (some proposal))
    (standard : settings.registry = Registry.standard) (byHint : settings.ByHint)
    {listed : List Address} {request : Request}
    (lists : ∀ ctx op reader, request = .enter ctx op reader → op.candidate?.isSome = true →
      ∀ committed, Lookup.suffrageCandidates reader = .ok committed → listed.Subperm committed) :
    candidatesOf [(request, (d.serve request).1)] = [] ∨
      ∃ a, candidatesOf [(request, (d.serve request).1)] = [a] ∧ a ∉ listed ∧
        listed.length < proposal.suffrage.length := by
  cases entry : admitted? (request, (d.serve request).1) with
  | none => exact .inl (by simp [candidatesOf, admittedOf, entry])
  | some op =>
    cases candidacy : op.candidate? with
    | none => exact .inl (by simp [candidatesOf, admittedOf, entry, candidacy])
    | some a =>
      obtain ⟨⟨ctx, reader, rfl⟩, admitted⟩ := admitted_exact.mp entry
      obtain ⟨committed, found, fits⟩ := opened.candidacy_fits standard byHint candidacy admitted
      have within := lists ctx op reader rfl (by rw [candidacy]; rfl) committed found
      refine .inr ⟨a, by simp [candidatesOf, admittedOf, entry, candidacy], ?_, ?_⟩
      · exact fun old => fits.fresh (within.subset old)
      · exact within.length_le.trans_lt fits.room

theorem At.run_bounded (opened : d.At settings height (some proposal))
    (standard : settings.registry = Registry.standard) (byHint : settings.ByHint)
    {listed : List Address}
    (start : listed.length ≤ proposal.suffrage.length) {requests : List Request}
    (recorded : Recorded listed (d.transcript requests)) :
    Bounded proposal.suffrage.length listed (candidatesOf (d.transcript requests)) := by
  induction requests generalizing d listed with
  | nil => exact ⟨start, List.nodup_nil, fun a none => absurd none List.not_mem_nil⟩
  | cons request rest ih =>
    unfold Desk.transcript at recorded ⊢
    rw [candidatesOf_cons]
    cases recorded with
    | cons lists later =>
      rcases opened.serve_bounded standard byHint lists with none | ⟨a, one, fresh, room⟩
      · rw [none, List.append_nil] at later
        rw [none, List.nil_append]
        exact ih (opened.serve request) start later
      · rw [one] at later ⊢
        obtain ⟨within, distinct, others⟩ := ih (opened.serve request)
          (by rw [List.length_append, List.length_singleton]; omega) later
        refine ⟨?_, ?_, ?_⟩
        · simp only [List.length_append, List.length_singleton] at within ⊢
          omega
        · exact List.nodup_cons.mpr ⟨fun again => others a again (by simp), distinct⟩
        · intro other member
          rcases List.mem_cons.mp member with rfl | new
          · exact fresh
          · exact fun old => others other new (List.mem_append_left _ old)

end Desk

-- Whatever is put to a session with a proposal: whether it admits a candidacy does not
-- depend on what it has admitted before, and one that it admits is outside the suffrage
-- and new to the candidates of its reader, which it does not make outnumber the suffrage.
-- Over the session the limit holds and nobody is admitted twice as long as the readers
-- list the candidates that have been admitted.
theorem candidacies_bounded {settings : Settings} {e : Engine}
    (path : Engine.Reachable settings e) (standard : settings.registry = Registry.standard)
    (byHint : settings.ByHint) (height : Height) (proposal : Proposal) (requests : List Request) :
    let record := (Desk.checkout e height (some proposal)).transcript requests
    (∀ ctx op reader reply a, (.enter ctx op reader, reply) ∈ record → op.candidate? = some a →
      (reply = .admission (.ok .admitted) ↔
        settings.standing height (some proposal) ctx op reader = .ok ()) ∧
      (reply = .admission (.ok .admitted) →
        ∃ committed, Lookup.suffrageCandidates reader = .ok committed ∧
          Candidate.Fits committed proposal.suffrage a)) ∧
    ∀ listed, listed.length ≤ proposal.suffrage.length → Recorded listed record →
      Bounded proposal.suffrage.length listed (candidatesOf record) := by
  intro record
  have opened := Desk.checkout_at path height (some proposal)
  refine ⟨fun ctx op reader reply a member candidacy => ?_, fun listed start recorded => ?_⟩
  · obtain ⟨now, sits, rfl⟩ := opened.answered member
    exact ⟨sits.admits_candidacy standard byHint candidacy,
      sits.candidacy_fits standard byHint candidacy⟩
  · exact opened.run_bounded standard byHint start recorded

theorem Recorded.enter {d : Desk} {ctx : Context} {op : Operation} {reader : Reader}
    {rest : List Request} {listed committed : List Address} (admitted : List Address)
    (found : Lookup.suffrageCandidates reader = .ok committed) (lists : listed.Subperm committed)
    (answer : candidatesOf [(.enter ctx op reader, (d.serve (.enter ctx op reader)).1)] = admitted)
    (later : Recorded (listed ++ admitted) ((d.serve (.enter ctx op reader)).2.transcript rest)) :
    Recorded listed (d.transcript (.enter ctx op reader :: rest)) := by
  refine .cons ?_ (answer ▸ later)
  intro _ _ _ same _ others found'
  cases same
  rw [found] at found'
  cases found'
  exact lists

namespace Sample

def standing (who : Address) (reader : Reader) : Request :=
  .enter Context.active (signed .candidate (.candidate ⟨[1], who, key⟩) Extensions.none) reader

def hopefuls (listed : List Address) : Reader :=
  (store [held alice key, held bob key, .suffrageCandidates listed]).reader

def duty (suffrage : List Address) : Desk :=
  Desk.checkout engine ⟨2⟩ (some ⟨⟨2⟩, suffrage, []⟩)

def early : Request := standing alice (hopefuls [])

def late : Request := standing bob (hopefuls [alice])

end Sample

-- A suffrage of one and no candidates: over one reader alice and bob are both admitted,
-- and alice a second time.
set_option maxRecDepth 100000 in
theorem candidacies_outnumber :
    let reader := Sample.hopefuls []
    let suffrage := [Sample.dave]
    let admitted := candidatesOf ((Sample.duty suffrage).transcript
      [Sample.standing Sample.alice reader, Sample.standing Sample.bob reader,
        Sample.standing Sample.alice reader])
    ∃ committed, Lookup.suffrageCandidates reader = .ok committed ∧
      committed.length ≤ suffrage.length ∧
        ¬ committed.length + admitted.length ≤ suffrage.length ∧ ¬ admitted.Nodup :=
  ⟨[], by decide +kernel⟩

-- A suffrage of two, and readers that keep up with the session.
set_option maxRecDepth 100000 in
theorem candidacies_bounded_recorded :
    let record := (Sample.duty [Sample.carol, Sample.dave]).transcript [Sample.early, Sample.late]
    candidatesOf record = [Sample.alice, Sample.bob] ∧ Bounded 2 [] (candidatesOf record) := by
  have path : Engine.Reachable Sample.settings Sample.engine := .new 1 1
  have byHint : Sample.settings.ByHint :=
    ⟨DuplicationRule.claims_byHint, DispatchRule.registry_byHint⟩
  obtain ⟨_, bounded⟩ := candidacies_bounded path rfl byHint ⟨2⟩
    ⟨⟨2⟩, [Sample.carol, Sample.dave], []⟩ [Sample.early, Sample.late]
  have opened : Sample.duty [Sample.carol, Sample.dave] = Desk.checkout Sample.engine ⟨2⟩
    (some ⟨⟨2⟩, [Sample.carol, Sample.dave], []⟩) := rfl
  rw [← opened] at bounded
  have none : Lookup.suffrageCandidates (Sample.hopefuls []) = .ok [] := by decide +kernel
  have one : Lookup.suffrageCandidates (Sample.hopefuls [Sample.alice]) = .ok [Sample.alice] := by
    decide +kernel
  have first : candidatesOf [(Sample.early, ((Sample.duty [Sample.carol, Sample.dave]).serve
      Sample.early).1)] = [Sample.alice] := by decide +kernel
  have second : candidatesOf [(Sample.late, (((Sample.duty [Sample.carol, Sample.dave]).serve
      Sample.early).2.serve Sample.late).1)] = [Sample.bob] := by decide +kernel
  refine ⟨?_, bounded [] (by decide) ?_⟩
  · rw [Desk.transcript, candidatesOf_cons, first, Desk.transcript, candidatesOf_cons, second]
    rfl
  · exact .enter [Sample.alice] none (.refl _) first (.enter [Sample.bob] one (.refl _) second .nil)

end SignedLedger

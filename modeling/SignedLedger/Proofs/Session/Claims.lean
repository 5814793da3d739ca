import Mathlib.Algebra.Order.Ring.Nat
import Mathlib.Data.List.Nodup
import SignedLedger.Proofs.Sample
import SignedLedger.Proofs.Session.Run

-- The claims of a session: exactly those of the operations it has admitted, each
-- held once. What was refused has left no trace in them.
namespace SignedLedger
open Check

theorem Tracker.conflict_duplicated {claimed pending claims : List Claim} {reason : Reason}
    (found : conflict? claimed pending claims = some reason) : reason.kind = .duplicated := by
  induction claims generalizing pending with
  | nil => cases found
  | cons claim rest ih =>
    unfold conflict? at found
    split at found
    · rw [← Option.some.inj found]
    · split at found
      · rw [← Option.some.inj found]
      · exact ih found

theorem Tracker.take_cases (tracker : Tracker) (set : ClaimSet) :
    ((tracker.claimed ++ set.claims).Nodup ∧
      ∃ new, tracker.take set = (.ok (), new) ∧ new.claimed = tracker.claimed ++ set.claims) ∨
    (¬ (tracker.claimed ++ set.claims).Nodup ∧
      ∃ reason, reason.kind = .duplicated ∧
        tracker.take set = (.error (.rejected reason), tracker)) := by
  unfold take
  split
  · rename_i reason found
    refine .inr ⟨fun distinct => ?_, reason, conflict_duplicated found, rfl⟩
    rw [conflict_none.mpr distinct] at found
    cases found
  · rename_i found
    exact .inl ⟨conflict_none.mp found, _, rfl, rfl⟩

def Operation.claims (op : Operation) : List Claim :=
  if op.hint.isExempt then [] else (op.fact.claims?.map ClaimSet.claims).getD []

def Operation.Claimable (op : Operation) : Prop :=
  op.hint.isExempt = true ∨ op.fact.claims?.isSome = true

-- The claims of the operation are taken, or it is refused and nothing is: as a duplicate,
-- as long as it can be asked for its claims at all.
theorem checkDuplication_cases (tracker : Tracker) (op : Operation) :
    (op.Claimable ∧ (tracker.claimed ++ op.claims).Nodup ∧
      ∃ new, checkDuplication tracker op = (.ok (), new) ∧
        new.claimed = tracker.claimed ++ op.claims) ∨
    (¬ (op.Claimable ∧ (tracker.claimed ++ op.claims).Nodup) ∧
      ∃ failure, checkDuplication tracker op = (.error failure, tracker) ∧
        (op.Claimable → ∃ reason, failure = .rejected reason ∧ reason.kind = .duplicated)) := by
  unfold checkDuplication Operation.Claimable Operation.claims
  cases op.hint.isExempt with
  | true =>
    refine .inl ⟨.inl rfl, ?_, tracker, rfl, ?_⟩
    · simpa using tracker.distinct
    · simp
  | false =>
    cases op.fact.claims? with
    | none => exact .inr ⟨by simp, _, rfl, by simp⟩
    | some set =>
      rcases tracker.take_cases set with ⟨distinct, taken⟩ | ⟨clash, reason, kind, refused⟩
      · exact .inl ⟨.inr rfl, distinct, taken⟩
      · exact .inr ⟨fun stands => clash stands.2, .rejected reason, refused,
          fun _ => ⟨reason, rfl, kind⟩⟩

theorem checkDuplication_ok {tracker : Tracker} {op : Operation} :
    (checkDuplication tracker op).1 = .ok () ↔
      op.Claimable ∧ (tracker.claimed ++ op.claims).Nodup := by
  rcases checkDuplication_cases tracker op with
    ⟨claimable, distinct, new, taken, _⟩ | ⟨clash, failure, refused, _⟩
  · simp [taken, claimable, distinct]
  · simp only [refused, reduceCtorEq, false_iff]
    exact clash

theorem checkDuplication_taken {tracker : Tracker} {op : Operation}
    (checked : (checkDuplication tracker op).1 = .ok ()) :
    (checkDuplication tracker op).2.claimed = tracker.claimed ++ op.claims := by
  rcases checkDuplication_cases tracker op with
    ⟨_, _, new, taken, grown⟩ | ⟨_, failure, refused, _⟩
  · rw [taken, grown]
  · rw [refused] at checked
    cases checked

theorem DuplicationRule.claims_atomic : DuplicationRule.claims.Atomic := by
  intro tracker op refused
  change (checkDuplication tracker op).1 ≠ .ok () at refused
  change (checkDuplication tracker op).2 = tracker
  rcases checkDuplication_cases tracker op with
    ⟨_, _, new, taken, _⟩ | ⟨_, failure, stopped, _⟩
  · exact absurd (congrArg Prod.fst taken) refused
  · rw [stopped]

def held (sets : List ClaimSet) : List Claim := (sets.map ClaimSet.claims).flatten

theorem held_append (sets : List ClaimSet) (set : ClaimSet) :
    held (sets ++ [set]) = held sets ++ set.claims := by
  simp [held]

def claimants (record : List (Request × Reply)) : List Operation :=
  (admittedOf record).filter fun op => !op.hint.isExempt

namespace Desk
variable {d : Desk} {request : Request} {op : Operation}

theorem serve_claims (rule : d.engine.settings.duplication = .claims) {tracker : Tracker}
    (tracked : d.session.tracker = some tracker)
    (admitted : admitted? (request, (d.serve request).1) = some op) :
    op.Claimable ∧ ∃ new, (d.serve request).2.session.tracker = some new ∧
      new.claimed = tracker.claimed ++ op.claims := by
  obtain ⟨⟨ctx, reader, rfl⟩, reply⟩ := admitted_exact.mp admitted
  obtain ⟨result, session⟩ := Engine.preProcess_admitted (Reply.admission.inj reply)
  obtain ⟨_, old, _, _, _, known, _, _, _, _, checked, left⟩ := Engine.runPreProcess_ok result
  rw [tracked] at known
  cases known
  rw [rule] at checked left
  have after : (d.serve (.enter ctx op reader)).2.session.tracker =
      some (checkDuplication tracker op).2 := by
    simp only [serve, session, left]
    rfl
  exact ⟨(checkDuplication_ok.mp checked).1, _, after, checkDuplication_taken checked⟩

theorem serve_tracker (rule : d.engine.settings.duplication = .claims)
    (opened : d.session.tracked.isSome = true)
    (inert : admitted? (request, (d.serve request).1) = none) :
    (d.serve request).2.session.tracker = d.session.tracker := by
  have atomic : d.engine.settings.duplication.Atomic := by
    rw [rule]
    exact DuplicationRule.claims_atomic
  exact (congrArg Session.tracker (serve_inert atomic opened inert) :)

-- The invariant of a whole run: the session holds what the sets before the run and the
-- sets of the admitted operations hold together.
theorem run_claims (rule : d.engine.settings.duplication = .claims)
    (opened : d.session.tracked.isSome = true) {sets : List ClaimSet} {tracker : Tracker}
    (tracked : d.session.tracker = some tracker) (whole : tracker.claimed = held sets)
    (requests : List Request) :
    ∃ (more : List ClaimSet) (last : Tracker),
      (claimants (d.transcript requests)).map (fun op => op.fact.claims?) = more.map some ∧
      (d.after requests).session.tracker = some last ∧ last.claimed = held (sets ++ more) := by
  -- An exempt operation is admitted without a set of its own, so the sets are not one for each.
  induction requests generalizing d sets tracker with
  | nil => exact ⟨[], tracker, rfl, tracked, by rw [List.append_nil, whole]⟩
  | cons request rest ih =>
    have kept : (d.serve request).2.engine.settings.duplication = .claims := by
      rw [serve_settings, rule]
    have still := (d.serve_kept request).tracked opened
    rw [after_cons]
    cases entry : admitted? (request, (d.serve request).1) with
    | none =>
      obtain ⟨more, last, listed, final⟩ :=
        ih kept still ((serve_tracker rule opened entry).trans tracked) whole
      refine ⟨more, last, ?_, final⟩
      simpa [claimants, admittedOf, transcript, entry] using listed
    | some op =>
      obtain ⟨claimable, new, after, grown⟩ := serve_claims rule tracked entry
      cases exempt : op.hint.isExempt with
      | true =>
        have same : new.claimed = held sets := by simpa [Operation.claims, exempt, whole] using grown
        obtain ⟨more, last, listed, final⟩ := ih kept still after same
        refine ⟨more, last, ?_, final⟩
        simpa [claimants, admittedOf, transcript, entry, exempt] using listed
      | false =>
        obtain ⟨set, wanted⟩ : ∃ set, op.fact.claims? = some set := by
          simpa [Operation.Claimable, exempt, Option.isSome_iff_exists] using claimable
        have more_held : new.claimed = held (sets ++ [set]) := by
          simpa [held_append, Operation.claims, exempt, wanted, whole] using grown
        obtain ⟨more, last, listed, left, total⟩ := ih kept still after more_held
        rw [List.append_assoc, List.singleton_append] at total
        refine ⟨set :: more, last, ?_, left, total⟩
        simpa [claimants, admittedOf, transcript, entry, exempt, wanted] using listed

end Desk

structure ClaimsExact (record : List (Request × Reply)) (session : Session)
    (sets : List ClaimSet) : Prop where
  listed : (claimants record).map (fun op => op.fact.claims?) = sets.map some
  tracked : ∃ tracker, session.tracker = some tracker ∧
    ∀ claim, claim ∈ tracker.claimed ↔ ∃ set ∈ sets, claim ∈ set.claims
  distinct : ∀ set ∈ sets, set.claims.Nodup
  apart : sets.Pairwise fun one other => ∀ claim ∈ one.claims, claim ∉ other.claims
  counted : session.claimCount = (sets.map ClaimSet.size).sum

theorem claimsExact_of_held {record : List (Request × Reply)} {session : Session}
    {sets : List ClaimSet} {tracker : Tracker}
    (listed : (claimants record).map (fun op => op.fact.claims?) = sets.map some)
    (tracked : session.tracker = some tracker) (whole : tracker.claimed = held sets) :
    ClaimsExact record session sets := by
  have distinct : (held sets).Nodup := whole ▸ tracker.distinct
  obtain ⟨single, apart⟩ := List.nodup_flatten.mp distinct
  refine ⟨listed, ⟨_, tracked, fun claim => by simp [whole, held]⟩, ?_, ?_, ?_⟩
  · intro set member
    exact single _ (List.mem_map_of_mem member)
  · exact (List.pairwise_map.mp apart).imp fun disjoint claim one other => disjoint one other
  · simp only [Session.claimCount, tracked, Option.map_some, Option.getD_some, Tracker.size, whole,
      held, List.length_flatten, List.map_map]
    rfl

-- Whatever is asked of a new session: it holds exactly the claims of the operations
-- that it has admitted and that are not exempt, none of them twice, and leaving out
-- calls that did not admit changes no other answer.
theorem session_claims_exact {settings : Settings} {e : Engine}
    (path : Engine.Reachable settings e) (rule : settings.duplication = .claims)
    (height : Height) (proposal : Option Proposal) (requests : List Request) :
    let desk := Desk.checkout e height proposal
    let record := desk.transcript requests
    (∃ sets, ClaimsExact record (desk.after requests).session sets) ∧
      ∀ thinned, Thinned record thinned → desk.transcript (thinned.map Prod.fst) = thinned := by
  intro desk record
  have clean := Engine.reachable_clean path
  have ready : desk.Ready := Desk.checkout_ready clean height proposal
  have chosen : desk.engine.settings.duplication = .claims := by
    simp only [desk, Desk.checkout, Engine.checkout, Engine.reachable_settings path, rule]
  have fresh : desk.session.tracker = some Tracker.empty := by
    simp only [desk, Desk.checkout, Engine.checkout_fresh clean]
  have start : Tracker.empty.claimed = held [] := rfl
  obtain ⟨sets, last, listed, tracked, whole⟩ :=
    Desk.run_claims chosen ready.opened fresh start requests
  refine ⟨⟨sets, claimsExact_of_held listed tracked whole⟩, fun thinned kept => ?_⟩
  obtain ⟨_, alike⟩ := ready.alike
  exact Desk.transcript_thinned (chosen ▸ DuplicationRule.claims_atomic) alike kept

def plainRequest : Request :=
  .enter Context.active Sample.plain Sample.plainLedger.reader

def plainDesk : Desk := Desk.checkout Sample.engine ⟨2⟩ none

set_option maxRecDepth 100000 in
theorem plain_admitted_once :
    admittedOf (plainDesk.transcript [plainRequest, plainRequest]) = [Sample.plain] := by
  have first : (plainDesk.serve plainRequest).1 = .admission (.ok .admitted) := by decide +kernel
  have second : admitted? (plainRequest, ((plainDesk.serve plainRequest).2.serve plainRequest).1) =
      none := Option.isNone_iff_eq_none.mp (by decide +kernel)
  simp only [Desk.transcript, admittedOf, List.filterMap_cons, second, first]
  rfl

-- The same transfer twice: the second one is refused, and the one claim is held.
theorem session_claims_exact_repeated :
    Sample.settings.duplication = .claims ∧
      (plainDesk.after [plainRequest, plainRequest]).session.claimCount = 1 := by
  refine ⟨rfl, ?_⟩
  obtain ⟨⟨sets, exact⟩, _⟩ := session_claims_exact (.new 1 1 : Engine.Reachable Sample.settings _)
    rfl ⟨2⟩ none [plainRequest, plainRequest]
  have listed := exact.listed
  have single : claimants (plainDesk.transcript [plainRequest, plainRequest]) = [Sample.plain] := by
    rw [claimants, plain_admitted_once]
    rfl
  unfold plainDesk Sample.engine at single
  rw [single] at listed
  obtain ⟨set, rfl⟩ : ∃ set, sets = [set] :=
    List.length_eq_one_iff.mp (by simpa using (congrArg List.length listed).symm)
  have size : set.size = 1 := by
    rw [← Option.some.inj (List.cons.inj listed).1]
    rfl
  exact exact.counted.trans (by simp [size])

end SignedLedger

import Mathlib.Data.List.Flatten
import Mathlib.Data.List.Perm.Subperm
import SignedLedger.Proofs.Operation.Effects
import SignedLedger.Proofs.Session.Claims

-- Blocks: the operations that one session admits over one state of the ledger, each
-- processed once, with what the accepted ones are going to write.
namespace SignedLedger
open Check

noncomputable section
open Classical in
instance : DecidableEq Declared := inferInstance
deriving instance DecidableEq for Fact, Operation
end

def Request.Over (reader : Reader) : Request → Prop
  | .enter _ op r => r = reader ∧ op.fact.kind?.isSome = true
  | .process _ op r => r = reader ∧ op.fact.kind?.isSome = true

structure Tally where
  waiting : List Operation
  accepted : List (Operation × List MergeValue)

namespace Tally

def empty : Tally := ⟨[], []⟩

-- An operation counts when it was admitted before, and only once.
noncomputable def count (t : Tally) : Request × Reply → Tally
  | (.enter _ op _, .admission (.ok .admitted)) => { t with waiting := t.waiting ++ [op] }
  | (.process _ op _, .outcome (.ok (.accepted values))) =>
    if op ∈ t.waiting then ⟨t.waiting.erase op, t.accepted ++ [(op, values)]⟩ else t
  | _ => t

noncomputable def of (record : List (Request × Reply)) : Tally := record.foldl count empty

def operations (t : Tally) : List Operation := t.waiting ++ t.accepted.map Prod.fst

end Tally

-- A request changes the tally when it admits an operation or processes one of those
-- that wait; any other leaves it as it was, and takes no claims.
theorem Tally.count_cases (t : Tally) (request : Request) (reply : Reply) :
    (admitted? (request, reply) = none ∧ t.count (request, reply) = t) ∨
      (∃ ctx op reader, request = .enter ctx op reader ∧ reply = .admission (.ok .admitted) ∧
        t.count (request, reply) = ⟨t.waiting ++ [op], t.accepted⟩) ∨
      ∃ ctx op reader values, request = .process ctx op reader ∧
        reply = .outcome (.ok (.accepted values)) ∧ op ∈ t.waiting ∧
        t.count (request, reply) = ⟨t.waiting.erase op, t.accepted ++ [(op, values)]⟩ := by
  unfold Tally.count
  split
  · rename_i ctx op reader same
    cases same
    exact .inr (.inl ⟨ctx, op, reader, rfl, rfl, rfl⟩)
  · rename_i ctx op reader values same
    cases same
    split
    · rename_i member
      exact .inr (.inr ⟨ctx, op, reader, values, rfl, rfl, member, rfl⟩)
    · exact .inl ⟨rfl, rfl⟩
  · rename_i other _
    refine .inl ⟨?_, rfl⟩
    unfold admitted?
    split
    · exact (other _ _ _ ‹_›).elim
    · rfl

noncomputable def Desk.accepted (d : Desk) (requests : List Request) :
    List (Operation × List MergeValue) :=
  (Tally.of (d.transcript requests)).accepted

def batchesOf (accepted : List (Operation × List MergeValue)) : List Batch :=
  accepted.map fun entry => (entry.1.digest, entry.2)

structure Operation.Admitted (settings : Settings) (reader : Reader) (op : Operation) : Prop where
  builtIn : op.fact.kind?.isSome = true
  form : checkForm settings op = .ok ()
  entry : checkEntry settings.network op reader = .ok ()

structure Operation.Accepted (settings : Settings) (reader : Reader) (op : Operation)
    (values : List MergeValue) : Prop extends Operation.Admitted settings reader op where
  written : ∃ processor, typeAndFeeValues processor op reader = .ok values
  balanced : checkBalances reader values = .ok ()

theorem Operation.Accepted.sound {settings : Settings} {reader : Reader} {op : Operation}
    {values : List MergeValue} (accepted : op.Accepted settings reader values) :
    ∀ value ∈ values, value.Sound := by
  obtain ⟨kind, builtIn⟩ := Option.isSome_iff_exists.mp accepted.builtIn
  obtain ⟨processor, written⟩ := accepted.written
  exact typeAndFeeValues_sound builtIn (checkForm_valid accepted.form) written

-- The invariant of a block. The claims of all its operations are held by the
-- session, which holds none of them twice.
structure Tally.Kept (settings : Settings) (reader : Reader) (d : Desk) (t : Tally) : Prop where
  settings_eq : d.engine.settings = settings
  opened : d.session.tracked.isSome = true
  claims : ∃ tracker, d.session.tracker = some tracker ∧
    (t.operations.flatMap Operation.claims).Subperm tracker.claimed
  admitted : ∀ op ∈ t.waiting, op.Admitted settings reader
  accepted : ∀ entry ∈ t.accepted, entry.1.Accepted settings reader entry.2

theorem Tally.Kept.claims_apart {settings : Settings} {reader : Reader} {d : Desk} {t : Tally}
    (kept : t.Kept settings reader d) {one other : Operation × List MergeValue}
    (pair : [one, other].Sublist t.accepted) (claim : Claim) :
    ¬ (claim ∈ one.1.claims ∧ claim ∈ other.1.claims) := by
  obtain ⟨tracker, _, sorted, same, sub⟩ := kept.claims
  have distinct : (t.operations.flatMap Operation.claims).Nodup :=
    same.nodup_iff.mp (sub.nodup tracker.distinct)
  have both : ([one, other].map Prod.fst).Sublist t.operations :=
    (pair.map _).trans (List.sublist_append_right _ _)
  have apart := (both.flatMap Operation.claims).nodup distinct
  simp only [List.map_cons, List.map_nil, List.flatMap_cons, List.flatMap_nil,
    List.append_nil] at apart
  rintro ⟨first, second⟩
  exact (List.nodup_append.mp apart).2.2 claim first claim second rfl

namespace Desk
variable {settings : Settings} {reader : Reader} {d : Desk} {t : Tally} {op : Operation}
  {ctx : Context}

theorem serve_admitted (asked : Request.Over reader (.enter ctx op reader))
    (admitted : (d.serve (.enter ctx op reader)).1 = .admission (.ok .admitted)) :
    op.Admitted d.engine.settings reader := by
  obtain ⟨result, _⟩ := Engine.preProcess_admitted (Reply.admission.inj admitted)
  obtain ⟨_, _, _, _, _, _, form, _, entry, _⟩ := Engine.runPreProcess_ok result
  exact ⟨asked.2, form, entry⟩

theorem serve_accepted {values : List MergeValue} (known : op.Admitted d.engine.settings reader)
    (accepted : (d.serve (.process ctx op reader)).1 = .outcome (.ok (.accepted values))) :
    op.Accepted d.engine.settings reader values := by
  have result := Engine.process_accepted (Reply.outcome.inj accepted)
  obtain ⟨processor, _, _, written, balanced⟩ := Engine.runProcess_ok result
  exact ⟨known, ⟨processor, written⟩, balanced⟩

theorem kept_enter (rule : settings.duplication = .claims) (kept : t.Kept settings reader d)
    (asked : Request.Over reader (.enter ctx op reader))
    (admitted : (d.serve (.enter ctx op reader)).1 = .admission (.ok .admitted)) :
    Tally.Kept settings reader (d.serve (.enter ctx op reader)).2
      ⟨t.waiting ++ [op], t.accepted⟩ := by
  obtain ⟨rfl, opened, ⟨tracker, tracked, within⟩, known, done⟩ := kept
  obtain ⟨_, new, after, grown⟩ :=
    serve_claims rule tracked (admitted_exact.mpr ⟨⟨ctx, reader, rfl⟩, admitted⟩)
  refine ⟨serve_settings _ _, (serve_kept _ _).tracked opened, ⟨new, after, ?_⟩, ?_, done⟩
  · have moved : (Tally.operations ⟨t.waiting ++ [op], t.accepted⟩).Perm (t.operations ++ [op]) := by
      unfold Tally.operations
      rw [List.append_assoc, List.append_assoc]
      exact List.perm_append_comm.append_left t.waiting
    rw [grown]
    refine (moved.flatMap_right _).subperm.trans ?_
    rw [List.flatMap_append, List.flatMap_singleton]
    exact within.append (List.Subperm.refl _)
  · intro other member
    rcases List.mem_append.mp member with old | new
    · exact known other old
    · rw [List.mem_singleton.mp new]
      exact serve_admitted asked admitted

theorem kept_accept (rule : settings.duplication = .claims) {values : List MergeValue}
    (kept : t.Kept settings reader d) (member : op ∈ t.waiting)
    (accepted : (d.serve (.process ctx op reader)).1 = .outcome (.ok (.accepted values))) :
    Tally.Kept settings reader (d.serve (.process ctx op reader)).2
      ⟨t.waiting.erase op, t.accepted ++ [(op, values)]⟩ := by
  obtain ⟨rfl, opened, ⟨tracker, tracked, within⟩, known, done⟩ := kept
  refine ⟨serve_settings _ _, (serve_kept _ _).tracked opened,
    ⟨tracker, (serve_tracker rule opened rfl).trans tracked, ?_⟩, ?_, ?_⟩
  · have moved : (Tally.operations ⟨t.waiting.erase op, t.accepted ++ [(op, values)]⟩).Perm
        t.operations := by
      unfold Tally.operations
      rw [List.map_append, List.map_singleton]
      refine (List.perm_append_comm.append_left _).trans ?_
      refine List.perm_middle.trans ?_
      exact ((List.perm_cons_erase member).symm).append_right _
    exact (moved.flatMap_right _).subperm.trans within
  · exact fun other left => known other (List.mem_of_mem_erase left)
  · intro entry listed
    rcases List.mem_append.mp listed with old | new
    · exact done entry old
    · rw [List.mem_singleton.mp new]
      exact serve_accepted (known op member) accepted

theorem kept_inert (rule : settings.duplication = .claims) {request : Request}
    (kept : t.Kept settings reader d) (inert : admitted? (request, (d.serve request).1) = none) :
    t.Kept settings reader (d.serve request).2 := by
  obtain ⟨rfl, opened, ⟨tracker, tracked, held⟩, known, done⟩ := kept
  exact ⟨serve_settings _ _, (serve_kept _ _).tracked opened,
    ⟨tracker, (serve_tracker rule opened inert).trans tracked, held⟩, known, done⟩

theorem count_kept (rule : settings.duplication = .claims) (kept : t.Kept settings reader d)
    {request : Request} (asked : request.Over reader) :
    Tally.Kept settings reader (d.serve request).2 (t.count (request, (d.serve request).1)) := by
  rcases t.count_cases request (d.serve request).1 with
    ⟨inert, same⟩ | ⟨ctx, op, r, rfl, reply, grown⟩ | ⟨ctx, op, r, values, rfl, reply, member, moved⟩
  · rw [same]
    exact kept_inert rule kept inert
  · obtain ⟨rfl, _⟩ := id asked
    rw [grown]
    exact kept_enter rule kept asked reply
  · obtain ⟨rfl, _⟩ := id asked
    rw [moved]
    exact kept_accept rule kept member reply

theorem run_kept (rule : settings.duplication = .claims) (kept : t.Kept settings reader d)
    {requests : List Request} (asked : ∀ request ∈ requests, request.Over reader) :
    Tally.Kept settings reader (d.after requests) ((d.transcript requests).foldl Tally.count t) := by
  induction requests generalizing d t with
  | nil => exact kept
  | cons request rest ih =>
    exact ih (count_kept rule kept (asked request List.mem_cons_self))
      fun other member => asked other (List.mem_cons_of_mem _ member)

theorem block_kept {e : Engine} (path : Engine.Reachable settings e)
    (rule : settings.duplication = .claims) (height : Height) (proposal : Option Proposal)
    {requests : List Request} (asked : ∀ request ∈ requests, request.Over reader) :
    let desk := checkout e height proposal
    Tally.Kept settings reader (desk.after requests) (Tally.of (desk.transcript requests)) := by
  have clean := Engine.reachable_clean path
  refine run_kept rule ⟨Engine.reachable_settings (.checkout path height proposal),
    (checkout_ready clean height proposal).opened, ⟨Tracker.empty, ?_, ?_⟩,
    by simp [Tally.empty], by simp [Tally.empty]⟩ asked
  · simp only [checkout, Engine.checkout_fresh clean]
  · exact List.nil_subperm

end Desk
end SignedLedger

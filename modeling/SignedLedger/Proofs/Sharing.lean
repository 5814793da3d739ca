import SignedLedger.Proofs.Sample
import Mathlib.Data.List.Basic

-- The values of a free list, shared by many takers. They come back in whatever state they
-- are, some that were made elsewhere among them, and the capacity goes up and down while
-- values are out. Each that comes back is cleared and then is handed out again, idle or
-- dropped, once.
namespace SignedLedger
namespace FreeList
variable {α : Type}

inductive Call (α : Type) where
  | take (made : α)
  | put (value : α)
  | resize (capacity : Nat)

namespace Call

def made? : Call α → Option α
  | .take made => some made
  | .put _ | .resize _ => none

def returned? : Call α → Option α
  | .put value => some value
  | .take _ | .resize _ => none

def capacity? : Call α → Option Nat
  | .resize capacity => some capacity
  | .take _ | .put _ => none

theorem filterMap_append {β : Type} (f : Call α → Option β) (call : Call α)
    (rest : List (Call α)) :
    (call :: rest).filterMap f = (f call).toList ++ rest.filterMap f := by
  simp only [List.filterMap_eq_flatMap_toList, List.flatMap_cons]

end Call

def step (clear : α → α) (list : FreeList α) : Call α → FreeList α
  | .take made => (list.take made).2
  | .put value => list.put clear value
  | .resize capacity => list.setCapacity capacity

def after (clear : α → α) (list : FreeList α) (calls : List (Call α)) : FreeList α :=
  calls.foldl (step clear) list

def again (list : FreeList α) : Call α → List α
  | .take made => if list.idle.isEmpty then [] else [(list.take made).1]
  | .put _ | .resize _ => []

def surplus (clear : α → α) (list : FreeList α) : Call α → List α
  | .take _ => []
  | .put value => if list.idle.length < list.capacity then [] else [clear value]
  | .resize capacity => list.idle.take (list.idle.length - capacity)

def reissued (clear : α → α) (list : FreeList α) : List (Call α) → List α
  | [] => []
  | call :: rest => list.again call ++ (list.step clear call).reissued clear rest

def dropped (clear : α → α) (list : FreeList α) : List (Call α) → List α
  | [] => []
  | call :: rest => list.surplus clear call ++ (list.step clear call).dropped clear rest

section Step
variable (clear : α → α) (list : FreeList α)

theorem take_parts (made : α) :
    (list.idle = [] ∧ list.take made = (made, { list with created := list.created + 1 })) ∨
      ∃ value rest, list.idle = value :: rest ∧
        list.take made = (value, { list with idle := rest, reused := list.reused + 1 }) := by
  unfold take
  cases list.idle with
  | nil => exact .inl ⟨rfl, rfl⟩
  | cons value rest => exact .inr ⟨value, rest, rfl, rfl⟩

theorem put_eq (value : α) :
    list.put clear value = { list with
      idle := if list.idle.length < list.capacity then clear value :: list.idle else list.idle } := by
  unfold put
  split
  · rfl
  · rfl

theorem step_capacity (call : Call α) :
    (list.step clear call).capacity = call.capacity?.getD list.capacity := by
  cases call with
  | take made =>
    rcases list.take_parts made with ⟨_, taken⟩ | ⟨value, rest, _, taken⟩ <;>
      simp [step, taken, Call.capacity?]
  | put value => simp [step, put_eq, Call.capacity?]
  | resize capacity => rfl

-- A list that is above its capacity would stay there until it is used up, so the bound
-- needs itself before the call.
theorem step_bounded (bounded : list.idle.length ≤ list.capacity) (call : Call α) :
    (list.step clear call).idle.length ≤ (list.step clear call).capacity := by
  cases call with
  | take made =>
    rcases list.take_parts made with ⟨_, taken⟩ | ⟨value, rest, held, taken⟩
    · simpa only [step, taken] using bounded
    · rw [held, List.length_cons] at bounded
      simp only [step, taken]
      omega
  | put value =>
    simp only [step, put_eq]
    split
    · rename_i room
      exact room
    · exact bounded
  | resize capacity =>
    simp only [step, setCapacity, List.length_drop]
    omega

theorem step_counted (call : Call α) :
    (list.step clear call).created + (list.step clear call).reused =
      list.created + list.reused + call.made?.toList.length := by
  cases call with
  | take made =>
    rcases list.take_parts made with ⟨_, taken⟩ | ⟨value, rest, _, taken⟩
    · simp only [step, taken, Call.made?, Option.toList_some, List.length_singleton]
      exact Nat.add_right_comm list.created 1 list.reused
    · simp only [step, taken, Call.made?, Option.toList_some, List.length_singleton]
      exact (Nat.add_assoc list.created list.reused 1).symm
  | put value => simp [step, put_eq, Call.made?]
  | resize capacity => rfl

theorem step_reused (call : Call α) :
    (list.step clear call).reused = list.reused + (list.again call).length := by
  cases call with
  | take made =>
    rcases list.take_parts made with ⟨empty, taken⟩ | ⟨value, rest, held, taken⟩
    · simp [step, again, taken, empty]
    · simp [step, again, taken, held]
  | put value => simp [step, put_eq, again]
  | resize capacity => rfl

-- The values that were idle before a call, and the one that it gives back: each is handed
-- out, idle after it, or dropped.
theorem step_conserved (call : Call α) :
    (list.again call ++ (list.step clear call).idle ++ list.surplus clear call).Perm
      (list.idle ++ call.returned?.toList.map clear) := by
  cases call with
  | take made =>
    rcases list.take_parts made with ⟨empty, taken⟩ | ⟨value, rest, held, taken⟩
    · simp [step, again, surplus, taken, empty, Call.returned?]
    · simp [step, again, surplus, taken, held, Call.returned?]
  | put value =>
    simp only [step, again, surplus, put_eq, Call.returned?, Option.toList_some, List.map_cons,
      List.map_nil, List.nil_append]
    split
    · rw [List.append_nil]
      exact (List.perm_append_singleton (clear value) list.idle).symm
    · exact List.Perm.refl _
  | resize capacity =>
    have parted := List.perm_append_comm.trans (List.Perm.of_eq
      (List.take_append_drop (list.idle.length - capacity) list.idle))
    simpa [step, again, surplus, setCapacity, Call.returned?] using parted

end Step

section Run
variable (clear : α → α) (list : FreeList α)

theorem after_capacity (calls : List (Call α)) :
    (list.after clear calls).capacity =
      (calls.filterMap Call.capacity?).getLastD list.capacity := by
  induction calls generalizing list with
  | nil => rfl
  | cons call rest ih =>
    have next := ih (list.step clear call)
    rw [step_capacity] at next
    rw [Call.filterMap_append]
    cases call with
    | take made => exact next
    | put value => exact next
    | resize capacity => exact next.trans List.getLastD_cons.symm

theorem after_bounded (bounded : list.idle.length ≤ list.capacity) (calls : List (Call α)) :
    (list.after clear calls).idle.length ≤ (list.after clear calls).capacity := by
  induction calls generalizing list with
  | nil => exact bounded
  | cons call rest ih => exact ih _ (list.step_bounded clear bounded call)

theorem after_counted (calls : List (Call α)) :
    (list.after clear calls).created + (list.after clear calls).reused =
      list.created + list.reused + (calls.filterMap Call.made?).length := by
  induction calls generalizing list with
  | nil => rfl
  | cons call rest ih =>
    have next := ih (list.step clear call)
    rw [step_counted, Nat.add_assoc, ← List.length_append, ← Call.filterMap_append] at next
    exact next

theorem after_reused (calls : List (Call α)) :
    (list.after clear calls).reused = list.reused + (list.reissued clear calls).length := by
  induction calls generalizing list with
  | nil => rfl
  | cons call rest ih =>
    have next := ih (list.step clear call)
    rw [step_reused, Nat.add_assoc, ← List.length_append] at next
    exact next

theorem append_swap (front one two : List α) : (front ++ one ++ two).Perm (front ++ two ++ one) := by
  simp only [List.append_assoc]
  exact List.perm_append_comm.append_left front

-- Nothing is lost and nothing is handed out twice: the values that were idle at first and
-- those that came back are handed out again, idle, or dropped.
theorem after_conserved (calls : List (Call α)) :
    (list.reissued clear calls ++ (list.after clear calls).idle ++ list.dropped clear calls).Perm
      (list.idle ++ (calls.filterMap Call.returned?).map clear) := by
  induction calls generalizing list with
  | nil => simp [reissued, after, dropped]
  | cons call rest ih =>
    let next := list.step clear call
    let last := next.after clear rest
    let later := (rest.filterMap Call.returned?).map clear
    have others : (next.reissued clear rest ++ last.idle ++ next.dropped clear rest).Perm
        (next.idle ++ later) := ih next
    rw [Call.filterMap_append, List.map_append, ← List.append_assoc]
    calc List.Perm
          (list.again call ++ next.reissued clear rest ++ last.idle ++
            (list.surplus clear call ++ next.dropped clear rest))
          (list.again call ++ (next.reissued clear rest ++ last.idle ++ next.dropped clear rest) ++
            list.surplus clear call) := by
            simp only [← List.append_assoc]
            exact append_swap _ _ _
      List.Perm _ (list.again call ++ (next.idle ++ later) ++ list.surplus clear call) :=
        (others.append_left _).append_right _
      List.Perm _ (list.again call ++ next.idle ++ list.surplus clear call ++ later) := by
            rw [← List.append_assoc]
            exact append_swap _ _ _
      List.Perm _ (list.idle ++ call.returned?.toList.map clear ++ later) :=
        (list.step_conserved clear call).append_right later

end Run

-- A list that starts empty, after any calls; as these can be any, it is so after each call of
-- a longer run too. No more values are idle than the capacity that was set last, all of them
-- cleared, and each take is counted once. What is handed out next is made for its taker, if
-- nothing is idle, and else a cleared value that came back before. A value that came back has
-- been handed out again, which is what is counted as reused, or is idle, or was dropped for
-- want of room; so the first two are no more than came back.
theorem calls_accounted (clear : α → α) (capacity : Nat) (calls : List (Call α)) :
    let start : FreeList α := empty capacity
    let list := start.after clear calls
    let returned := calls.filterMap Call.returned?
    (list.capacity = (calls.filterMap Call.capacity?).getLastD capacity ∧
      list.idle.length ≤ list.capacity) ∧
    (∀ value ∈ list.idle, ∃ old ∈ returned, value = clear old) ∧
    list.created + list.reused = (calls.filterMap Call.made?).length ∧
    list.reused + list.idle.length ≤ returned.length ∧
    (∀ made, (list.idle = [] ∧ (list.take made).1 = made) ∨
      ∃ old ∈ returned, (list.take made).1 = clear old) ∧
    list.reused = (start.reissued clear calls).length ∧
    (start.reissued clear calls ++ list.idle ++ start.dropped clear calls).Perm
      (returned.map clear) := by
  intro start list returned
  have conserved : (start.reissued clear calls ++ list.idle ++ start.dropped clear calls).Perm
      (returned.map clear) := start.after_conserved clear calls
  have reused : list.reused = (start.reissued clear calls).length := by
    rw [start.after_reused clear calls]
    exact Nat.zero_add _
  have counted : list.created + list.reused = (calls.filterMap Call.made?).length := by
    rw [start.after_counted clear calls]
    exact Nat.zero_add _
  have cleared : ∀ value ∈ list.idle, ∃ old ∈ returned, value = clear old := by
    intro value idle
    have among := conserved.subset
      (List.mem_append_left _ (List.mem_append_right (start.reissued clear calls) idle))
    obtain ⟨old, back, same⟩ := List.mem_map.mp among
    exact ⟨old, back, same.symm⟩
  refine ⟨⟨start.after_capacity clear calls, start.after_bounded clear (Nat.zero_le _) calls⟩,
    cleared, counted, ?_, fun made => ?_, reused, conserved⟩
  · have many := conserved.length_eq
    simp only [List.length_append, List.length_map] at many
    omega
  · rcases list.take_parts made with ⟨empty, taken⟩ | ⟨value, rest, held, taken⟩
    · exact .inl ⟨empty, congrArg Prod.fst taken⟩
    · rw [taken]
      exact .inr (cleared value (held ▸ List.mem_cons_self))

end FreeList

namespace Sample

def resting (kind : FactKind) : Processor := Processor.idle (.builtIn kind)

def working (kind : FactKind) : Processor :=
  ⟨.builtIn kind, Bound.bind ⟨2⟩ plainLedger.reader, [alice]⟩

def lent : List (FreeList.Call Processor) :=
  [.take (resting .transfer), .take (resting .withdraw), .put (working .transfer),
    .put (working .createDid), .put (working .withdraw), .resize 1, .resize 2,
    .take (resting .candidate), .put (working .transfer)]

end Sample

theorem FreeList.calls_accounted_lent :
    let list := (FreeList.empty 2).after Processor.clear Sample.lent
    let returned := Sample.lent.filterMap FreeList.Call.returned?
    list = ⟨[Sample.resting .transfer], 2, 2, 1⟩ ∧
    (Sample.resting .transfer ∈ list.idle ∧
      ∃ old ∈ returned, Sample.resting .transfer = old.clear) ∧
    list.created + list.reused = 3 ∧
    list.reused + list.idle.length ≤ 4 ∧
    (list.idle ≠ [] ∧
      ∃ old ∈ returned, (list.take (Sample.resting .candidate)).1 = old.clear) ∧
    ([Sample.resting .transfer] ++ list.idle ++
      [Sample.resting .withdraw, Sample.resting .createDid]).Perm
        (returned.map Processor.clear) := by
  intro list returned
  obtain ⟨_, cleared, counted, supplied, handed, _, conserved⟩ :=
    FreeList.calls_accounted Processor.clear 2 Sample.lent
  have waiting : Sample.resting .transfer ∈ list.idle := List.mem_singleton.mpr rfl
  have held : list.idle ≠ [] := List.cons_ne_nil _ _
  have next := (handed (Sample.resting .candidate)).resolve_left fun made => held made.1
  exact ⟨rfl, ⟨waiting, cleared _ waiting⟩, counted, supplied, ⟨held, next⟩, conserved⟩

end SignedLedger

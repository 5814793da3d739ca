import SignedLedger.Proofs.Session.Log

-- Processors on their way: a session takes one for every call that is dispatched, and
-- gives none back before its end. Then each goes back to the list of its type, once.
namespace SignedLedger

def FreeList.refilled {α : Type} (value : α) (count : Nat) (list : FreeList α) : FreeList α :=
  { list with
    idle := List.replicate (min count (list.capacity - list.idle.length)) value ++ list.idle }

namespace FreeList
variable {α : Type}

theorem refilled_zero (value : α) (list : FreeList α) : list.refilled value 0 = list := by
  simp [refilled]

theorem refilled_refilled (value : α) (one two : Nat) (list : FreeList α) :
    (list.refilled value one).refilled value two = list.refilled value (one + two) := by
  simp only [refilled, List.length_append, List.length_replicate, ← List.append_assoc,
    List.replicate_append_replicate]
  congr 3
  omega

theorem put_refilled (clear : α → α) (value : α) (list : FreeList α) :
    list.put clear value = list.refilled (clear value) 1 := by
  unfold put refilled
  split
  · rename_i room
    have one : min 1 (list.capacity - list.idle.length) = 1 := by omega
    rw [one]
    rfl
  · rename_i full
    have none : min 1 (list.capacity - list.idle.length) = 0 := by omega
    rw [none]
    rfl

theorem take_suffix (fresh : α) (list : FreeList α) : (list.take fresh).2.idle <:+ list.idle := by
  unfold take
  split
  · rename_i empty
    simp only [empty, List.suffix_refl]
  · rename_i value rest held
    rw [held]
    exact List.suffix_cons value rest

end FreeList

def Processor.isOf (kind : FactKind) (processor : Processor) : Bool :=
  match processor.kind with
  | .builtIn k => k = kind
  | .custom _ => false

def Processor.closed (processor : Processor) : Closing :=
  ⟨processor, match processor.kind with
    | .builtIn _ => .ok ()
    | .custom service => service.close⟩

namespace Workshop

theorem close_result (w : Workshop) (processor : Processor) :
    (w.close processor).1 = processor.closed.result := by
  obtain ⟨sort, bound, suffrage⟩ := processor
  cases sort with
  | custom service => rfl
  | builtIn k => rfl

theorem close_lists (w : Workshop) (processor : Processor) (kind : FactKind) :
    (w.close processor).2.lists kind = (w.lists kind).refilled (Processor.idle (.builtIn kind))
      (if processor.isOf kind then 1 else 0) := by
  obtain ⟨sort, bound, suffrage⟩ := processor
  cases sort with
  | custom service => exact (FreeList.refilled_zero _ _).symm
  | builtIn k =>
    by_cases same : kind = k
    · subst same
      simp [close, withList, FreeList.put_refilled, Processor.clear, Processor.idle, Processor.isOf]
    · simp [close, withList, same, Ne.symm same, FreeList.refilled_zero, Processor.isOf]

-- The loop goes on whatever a processor answers to being closed.
theorem closeAll_closings (w : Workshop) (processors : List Processor) :
    (w.closeAll processors).1 = processors.map Processor.closed := by
  induction processors generalizing w with
  | nil => rfl
  | cons processor rest ih =>
    have first : (⟨processor, (w.close processor).1⟩ : Closing) = processor.closed := by
      rw [close_result]
      rfl
    simp only [closeAll, List.map_cons, ih, first]

theorem closeAll_lists (w : Workshop) (processors : List Processor) (kind : FactKind) :
    (w.closeAll processors).2.lists kind =
      (w.lists kind).refilled (Processor.idle (.builtIn kind))
        (processors.countP (Processor.isOf kind)) := by
  induction processors generalizing w with
  | nil => exact (FreeList.refilled_zero _ _).symm
  | cons processor rest ih =>
    simp only [closeAll]
    rw [ih, close_lists, FreeList.refilled_refilled, List.countP_cons, Nat.add_comm]

theorem take_suffix (w : Workshop) (kind : ProcessorKind) (height : Height)
    (proposal : Option Proposal) (reader : Reader) (k : FactKind) :
    ((w.take kind height proposal reader).2.lists k).idle <:+ (w.lists k).idle := by
  cases kind with
  | custom service => exact List.suffix_refl _
  | builtIn sort =>
    by_cases same : k = sort
    · subst same
      simp only [take, withList, if_true]
      exact FreeList.take_suffix _ _
    · simp only [take, withList, if_neg same]
      exact List.suffix_refl _

end Workshop

theorem Settings.find_suffix {settings : Settings} {w rest : Workshop} {s : Session}
    {op : Operation} {reader : Reader} {processor : Processor}
    (found : settings.find w s op reader = .ok (processor, rest)) (kind : FactKind) :
    (rest.lists kind).idle <:+ (w.lists kind).idle := by
  rcases settings.find_decides s op reader with ⟨fault, refused⟩ | ⟨_, told, sort, _, _, taken⟩
  · rw [refused] at found
    cases found
  · rw [taken] at found
    have left := w.take_suffix sort s.height told reader kind
    rw [Except.ok.inj found] at left
    exact left

theorem Engine.Leaves.suffix {settings : Settings} {w left : Workshop} {s : Session}
    {op : Operation} {reader : Reader} (leaves : Leaves settings w s op reader left)
    (kind : FactKind) : (left.lists kind).idle <:+ (w.lists kind).idle := by
  rcases leaves with rfl | ⟨_, found⟩
  · exact List.suffix_refl _
  · exact Settings.find_suffix found kind

def Settings.found (settings : Settings) (w : Workshop) (s : Session) (op : Operation)
    (reader : Reader) : Option Processor :=
  (settings.find w s op reader).toOption.map Prod.fst

section Tracked
variable {s : Session} {held : List Processor}

theorem Engine.trackAnd_tracked {α : Type} (opened : s.tracked = some held) (w : Workshop)
    (processor : Processor) (result : Check α) :
    (trackAnd s w processor result).session.tracked = some (held ++ [processor]) := by
  simp only [trackAnd, Session.track, opened]

theorem Engine.runProcess_tracked (opened : s.tracked = some held) (settings : Settings)
    (w : Workshop) (ctx : Context) (op : Operation) (reader : Reader) :
    (runProcess settings w s ctx op reader).session.tracked =
      some (held ++ (settings.found w s op reader).toList) := by
  unfold runProcess Settings.found
  cases settings.find w s op reader with
  | error fault => simpa [Except.toOption] using opened
  | ok pair => exact trackAnd_tracked opened _ _ _

theorem Engine.runPreProcess_tracked (opened : s.tracked = some held) (settings : Settings)
    (w : Workshop) (ctx : Context) (op : Operation) (reader : Reader) :
    (runPreProcess settings w s ctx op reader).session.tracked = some (held ++
      ((checkForm settings op).toOption.bind fun _ => settings.found w s op reader).toList) := by
  unfold runPreProcess Settings.found
  cases checkForm settings op with
  | error failure => simpa [Except.toOption] using opened
  | ok =>
    cases settings.find w s op reader with
    | error fault => simpa [Except.toOption] using opened
    | ok pair =>
      obtain ⟨processor, rest⟩ := pair
      have left : (admission settings s processor ctx op reader).2.tracked = some held := by
        rcases admission_parts settings s processor ctx op reader with
          ⟨failure, stopped⟩ | ⟨tracker, _, _, asked⟩
        · rw [stopped, opened]
        · rw [asked]
          exact opened
      exact trackAnd_tracked left _ _ _

end Tracked

namespace Desk

-- A cancelled call is not dispatched, and neither is an admission before the form of its
-- operation is known to be right.
def dispatched (d : Desk) : Request → Option Processor
  | .enter ctx op reader =>
    if ctx.cancelled then none
    else (checkForm d.engine.settings op).toOption.bind fun _ =>
      d.engine.settings.found d.engine.workshop d.session op reader
  | .process ctx op reader =>
    if ctx.cancelled then none
    else d.engine.settings.found d.engine.workshop d.session op reader

def taken (d : Desk) : List Event → List Processor
  | [] => []
  | .own request :: rest => (d.dispatched request).toList ++ (d.serve request).2.taken rest
  | .other move :: rest => (d.meet (.other move)).taken rest

theorem serve_suffix (d : Desk) (request : Request) (kind : FactKind) :
    ((d.serve request).2.engine.workshop.lists kind).idle <:+
      (d.engine.workshop.lists kind).idle := by
  rcases d.serve_cases request with ⟨_, _, same⟩ | ⟨_, left⟩
  · simp only [same, List.suffix_refl]
  · rw [left]
    cases request with
    | enter ctx op reader => exact (Engine.runPreProcess_leaves _ _ _ _ _ _).suffix kind
    | process ctx op reader => exact (Engine.runProcess_leaves _ _ _ _ _ _).suffix kind

theorem serve_closings (d : Desk) (request : Request) :
    (d.serve request).2.engine.closings = d.engine.closings := by
  rcases d.serve_cases request with ⟨_, _, same⟩ | ⟨_, left⟩
  · rw [same]
  · rw [left]

theorem serve_tracked {d : Desk} {held : List Processor} (opened : d.session.tracked = some held)
    (request : Request) :
    (d.serve request).2.session.tracked = some (held ++ (d.dispatched request).toList) := by
  rcases d.serve_cases request with ⟨cancelled, _, same⟩ | ⟨wanted, left⟩
  · have none : d.dispatched request = none := by
      cases request with
      | enter ctx op reader => exact if_pos cancelled
      | process ctx op reader => exact if_pos cancelled
    rw [same, none, opened, Option.toList_none, List.append_nil]
  · rw [left]
    cases request with
    | enter ctx op reader =>
      simp only [dispatched, show ctx.cancelled = false from wanted, Bool.false_eq_true, if_false]
      exact Engine.runPreProcess_tracked opened d.engine.settings d.engine.workshop ctx op reader
    | process ctx op reader =>
      simp only [dispatched, show ctx.cancelled = false from wanted, Bool.false_eq_true, if_false]
      exact Engine.runProcess_tracked opened d.engine.settings d.engine.workshop ctx op reader

theorem through_tracked {d : Desk} {held : List Processor}
    (opened : d.session.tracked = some held) (events : List Event) :
    (d.through events).session.tracked = some (held ++ d.taken events) := by
  induction events generalizing d held with
  | nil => simpa [taken, through] using opened
  | cons event rest ih =>
    cases event with
    | own request =>
      have next := ih (serve_tracked opened request)
      rw [List.append_assoc] at next
      exact next
    | other move => exact ih (d := d.meet (.other move)) opened

end Desk

def Move.closings : Move → List Closing
  | .finish session _ => (session.tracked.getD []).map Processor.closed
  | _ => []

def Event.closings : Event → List Closing
  | .own _ => []
  | .other move => move.closings

theorem Engine.move_closings (e : Engine) (move : Move) :
    (e.move move).closings = e.closings ++ move.closings := by
  cases move with
  | checkout height proposal => exact (List.append_nil _).symm
  | serve session request =>
    exact (Desk.serve_closings ⟨e, session⟩ request).trans (List.append_nil _).symm
  | finish session cancelled =>
    exact congrArg (e.closings ++ ·) (e.workshop.closeAll_closings _)
  | elsewhere errand => exact (List.append_nil _).symm

theorem Desk.through_closings (d : Desk) (events : List Event) :
    (d.through events).engine.closings = d.engine.closings ++ events.flatMap Event.closings := by
  induction events generalizing d with
  | nil => exact (List.append_nil _).symm
  | cons event rest ih =>
    rw [List.flatMap_cons, ← List.append_assoc]
    refine (ih (d.meet event)).trans (congrArg (· ++ _) ?_)
    cases event with
    | own request => exact (d.serve_closings request).trans (List.append_nil _).symm
    | other move => exact d.engine.move_closings move
end SignedLedger

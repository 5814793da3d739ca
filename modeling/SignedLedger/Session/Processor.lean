import SignedLedger.FreeList
import SignedLedger.Operation.Basic

-- Processors serve operations of one type. They are kept in free lists, one a
-- type, and are bound to a height and a reader while they are out.
namespace SignedLedger

structure Bound where
  height : Height
  reader : Option Reader

namespace Bound

def unbound : Bound := ⟨Height.zero, none⟩

def bind (height : Height) (reader : Reader) : Bound := ⟨height, some reader⟩

def isBound (b : Bound) : Bool := b.reader.isSome

def require (b : Bound) : Except Fault Reader :=
  match b.reader with
  | some reader => .ok reader
  | none => .error (.invariant .unbound)

def brief (b : Bound) : String :=
  let bound := if b.isBound then "true" else "false"
  s!"Bound \x7b height: Height({b.height}), bound: {bound} \x7d"

end Bound

-- What a processor of a type that is not built in does, once it is made. Every processor
-- asks for a fact of its own type, so for a built-in one it has nothing to write.
structure Service where
  permit : Reader → Operation → Check Unit
  effects : Reader → Operation → Check (List MergeValue)
  close : Except Fault Unit
  downcast : ∀ {reader op values}, op.fact.kind?.isSome = true →
    effects reader op = .ok values → values = []

inductive ProcessorKind where
  | builtIn (kind : FactKind)
  | custom (service : Service)

structure Processor where
  kind : ProcessorKind
  bound : Bound
  suffrage : List Address

namespace Processor

def idle (kind : ProcessorKind) : Processor := ⟨kind, Bound.unbound, []⟩

def clear (p : Processor) : Processor := { p with bound := Bound.unbound, suffrage := [] }

def reading (reader : Reader) (p : Processor) : Processor :=
  { p with bound := { p.bound with reader := some reader } }

def permit (p : Processor) (op : Operation) : Check Unit :=
  match p.kind, op.fact with
  | .builtIn .transfer, .transfer f => do f.permit (← p.bound.require)
  | .builtIn .createAccount, .createAccount f => do f.permit (← p.bound.require)
  | .builtIn .createContract, .createContract f => do f.permit (← p.bound.require)
  | .builtIn .withdraw, .withdraw f => do f.permit (← p.bound.require)
  | .builtIn .registerModel, .registerModel f => do f.permit (← p.bound.require)
  | .builtIn .createDid, .createDid f => do f.permit (← p.bound.require)
  | .builtIn .updateDocument, .updateDocument f => do f.permit (← p.bound.require)
  | .builtIn .candidate, .candidate f => do f.permit (← p.bound.require) p.suffrage
  | .builtIn kind, fact => fail (.factMismatch kind fact.hint)
  | .custom service, _ => do service.permit (← p.bound.require) op

def effects (p : Processor) (op : Operation) : Check (List MergeValue) :=
  match p.kind, op.fact with
  | .builtIn .transfer, .transfer f => f.effects
  | .builtIn .createAccount, .createAccount f => f.effects
  | .builtIn .createContract, .createContract f => f.effects
  | .builtIn .withdraw, .withdraw f => .ok f.effects
  | .builtIn .registerModel, .registerModel f => do f.effects (← p.bound.require)
  | .builtIn .createDid, .createDid f => do f.effects (← p.bound.require)
  | .builtIn .updateDocument, .updateDocument f => do f.effects (← p.bound.require)
  | .builtIn .candidate, .candidate _ => .ok []
  | .builtIn kind, fact => fail (.factMismatch kind fact.hint)
  | .custom service, _ => do service.effects (← p.bound.require) op

end Processor

structure Closing where
  processor : Processor
  result : Except Fault Unit

structure Workshop where
  lists : FactKind → FreeList Processor

namespace Workshop

def empty (capacity : Nat) : Workshop := ⟨fun _ => FreeList.empty capacity⟩

def setCapacity (capacity : Nat) (w : Workshop) : Workshop :=
  ⟨fun kind => (w.lists kind).setCapacity capacity⟩

def withList (w : Workshop) (kind : FactKind) (list : FreeList Processor) : Workshop :=
  ⟨fun k => if k = kind then list else w.lists k⟩

def suffrageFor : FactKind → Option Proposal → List Address
  | .candidate, some proposal => proposal.suffrage
  | _, _ => []

def take (w : Workshop) (kind : ProcessorKind) (height : Height) (proposal : Option Proposal)
    (reader : Reader) : Processor × Workshop :=
  match kind with
  | .custom _ => ({ Processor.idle kind with bound := Bound.bind height reader }, w)
  | .builtIn k =>
    let (processor, list) := (w.lists k).take (Processor.idle kind)
    ({ processor with
        bound := Bound.bind height reader
        suffrage := processor.suffrage ++ suffrageFor k proposal },
      w.withList k list)

def close (w : Workshop) (processor : Processor) : Except Fault Unit × Workshop :=
  match processor.kind with
  | .custom service => (service.close, w)
  | .builtIn k => (.ok (), w.withList k ((w.lists k).put Processor.clear processor))

-- One that fails to close does not keep the others from being closed.
def closeAll (w : Workshop) : List Processor → List Closing × Workshop
  | [] => ([], w)
  | processor :: rest =>
    let (result, left) := w.close processor
    let (closings, last) := left.closeAll rest
    (⟨processor, result⟩ :: closings, last)

end Workshop
end SignedLedger

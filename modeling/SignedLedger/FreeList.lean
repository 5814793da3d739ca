-- Free lists: values that were given back are cleared and handed out again, the
-- latest first. At most capacity many are kept.
namespace SignedLedger

structure FreeList (α : Type) where
  idle : List α
  capacity : Nat
  created : Nat
  reused : Nat

namespace FreeList
variable {α : Type}

def empty (capacity : Nat) : FreeList α := ⟨[], capacity, 0, 0⟩

def take (fresh : α) (list : FreeList α) : α × FreeList α :=
  match list.idle with
  | [] => (fresh, { list with created := list.created + 1 })
  | value :: rest => (value, { list with idle := rest, reused := list.reused + 1 })

def put (clear : α → α) (value : α) (list : FreeList α) : FreeList α :=
  if list.idle.length < list.capacity then { list with idle := clear value :: list.idle } else list

def setCapacity (capacity : Nat) (list : FreeList α) : FreeList α :=
  { list with capacity, idle := list.idle.drop (list.idle.length - capacity) }

end FreeList
end SignedLedger

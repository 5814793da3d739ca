import SignedLedger.Failure
import SignedLedger.State.Basic

-- The read side of a ledger. A reader may fail; its faults are passed on as
-- they are. The store is a reader that never fails.
namespace SignedLedger

abbrev Reader := String → Except Fault (Option State)

structure Store where
  states : List State
  deriving DecidableEq

namespace Store

def empty : Store := ⟨[]⟩

def find? (store : Store) (key : String) : Option State :=
  store.states.find? fun state => state.key = key

def replace (state : State) : List State → List State
  | [] => [state]
  | old :: rest => if old.key = state.key then state :: rest else old :: replace state rest

def insert (store : Store) (state : State) : Store := ⟨replace state store.states⟩

def extend (store : Store) (states : List State) : Store := states.foldl insert store

def remove (store : Store) (key : String) : Store :=
  ⟨store.states.filter fun state => state.key ≠ key⟩

def size (store : Store) : Nat := store.states.length

def reader (store : Store) : Reader := fun key => .ok (store.find? key)

end Store

def Reader.failingOn (reader : Reader) (faults : List (String × Fault)) : Reader := fun key =>
  match faults.find? fun entry => entry.1 = key with
  | some (_, fault) => .error fault
  | none => reader key

structure Source where
  store : Store
  faults : List (String × Fault)

namespace Source

def sound (store : Store) : Source := ⟨store, []⟩

def reader (s : Source) : Reader := s.store.reader.failingOn s.faults

def extend (s : Source) (states : List State) : Source := { s with store := s.store.extend states }

end Source
end SignedLedger

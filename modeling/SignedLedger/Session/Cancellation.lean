import SignedLedger.State.Reader

-- Cancellation. Tokens form a forest: cancelling one cancels all that descend
-- from it. A call works under a context, which may be cancelled beforehand or by
-- the reading of a state key while the call runs.
namespace SignedLedger

abbrev Token := List Nat

structure Tokens where
  next : Nat
  cancelled : List Token
  deriving DecidableEq

namespace Tokens

def empty : Tokens := ⟨0, []⟩

def root (tokens : Tokens) : Token × Tokens := ([tokens.next], { tokens with next := tokens.next + 1 })

def child (parent : Token) (tokens : Tokens) : Token × Tokens :=
  (tokens.next :: parent, { tokens with next := tokens.next + 1 })

def cancel (token : Token) (tokens : Tokens) : Tokens :=
  { tokens with cancelled := token :: tokens.cancelled }

def isCancelled (tokens : Tokens) (token : Token) : Bool :=
  tokens.cancelled.any fun other => other.isSuffixOf token

def ensureActive (tokens : Tokens) (token : Token) : Except Fault Unit :=
  if tokens.isCancelled token then .error .cancelled else .ok ()

end Tokens

structure Context where
  cancelled : Bool
  tripwire : Option String
  deriving DecidableEq

namespace Context

def active : Context := ⟨false, none⟩

def ensureActive (ctx : Context) : Except Fault Unit :=
  if ctx.cancelled then .error .cancelled else .ok ()

end Context

def failure? {α : Type} : Check α → Option Failure
  | .ok _ => none
  | .error failure => some failure

-- A stage reads a key exactly when it passes on the fault met there; two
-- different faults at the key tell its own failure from a passed one.
def readsKey {α : Type} (reader : Reader) (stage : Reader → Check α) (key : String) : Bool :=
  let outcome (mark : String) : Option Failure :=
    failure? (stage (reader.failingOn [(key, .storage mark)]))
  decide (outcome "unreadable" ≠ outcome "lost")

def Context.after {α : Type} (ctx : Context) (reader : Reader) (stage : Reader → Check α) :
    Context :=
  match ctx.tripwire with
  | none => ctx
  | some key => { ctx with cancelled := ctx.cancelled || readsKey reader stage key }

end SignedLedger

import SignedLedger.Session.Engine

-- A running ledger: what is stored, an engine over it, the open sessions by
-- number, and what accepted operations are going to write.
namespace SignedLedger

structure Ledger where
  source : Source
  engine : Engine
  sessions : List (Nat × Session)
  pending : List Batch

namespace Ledger

def start (source : Source) (engine : Engine) : Ledger := ⟨source, engine, [], []⟩

def session? (l : Ledger) (id : Nat) : Option Session := l.sessions.lookup id

def others (l : Ledger) (id : Nat) : List (Nat × Session) := l.sessions.filter fun entry => entry.1 ≠ id

def keep (l : Ledger) (id : Nat) (session : Session) (engine : Engine) : Ledger :=
  { l with engine, sessions := (id, session) :: l.others id }

def checkout (l : Ledger) (id : Nat) (height : Height) (proposal : Option Proposal) : Ledger :=
  let (session, engine) := l.engine.checkout height proposal
  l.keep id session engine

def preProcess (l : Ledger) (id : Nat) (session : Session) (ctx : Context) (op : Operation) :
    Call Admission × Ledger :=
  let call := l.engine.preProcess session ctx op l.source.reader
  (call, l.keep id call.session call.engine)

def accepted (op : Operation) : Except Fault Outcome → List Batch
  | .ok (.accepted values) => [(op.digest, values)]
  | _ => []

def process (l : Ledger) (id : Nat) (session : Session) (ctx : Context) (op : Operation) :
    Call Outcome × Ledger :=
  let call := l.engine.process session ctx op l.source.reader
  (call, { l.keep id call.session call.engine with
    pending := l.pending ++ accepted op call.answer })

def commit (l : Ledger) (height : Height) : Except Fault (List State × Ledger) := do
  let states ← applyMerges height l.pending l.source.reader
  return (states, { l with source := l.source.extend states, pending := [] })

def finish (l : Ledger) (id : Nat) (session : Session) (cancelled : Bool) : Ledger :=
  { l with engine := l.engine.finish session cancelled, sessions := l.others id }

end Ledger
end SignedLedger

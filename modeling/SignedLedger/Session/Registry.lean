import SignedLedger.Session.Processor

-- The registry finds the processor of an operation by its hint: the exact hint,
-- else the highest version of the same name and major version.
namespace SignedLedger

inductive Maker where
  | builtIn (kind : FactKind)
  | custom (create : Height → Option Proposal → Reader → Except Fault Service)

structure Registry where
  stateOnly : Table Hint Maker
  proposalAware : Table Hint Maker

namespace Registry

def empty : Registry := ⟨[], []⟩

def register (registry : Registry) (hint : Hint) (maker : Maker) : Except Fault Unit × Registry :=
  match registry.stateOnly.find? hint with
  | some _ => (.error (.config (.alreadyRegistered hint)), registry)
  | none => (.ok (), { registry with stateOnly := registry.stateOnly.set hint maker })

def registerWithProposal (registry : Registry) (hint : Hint) (maker : Maker) :
    Except Fault Unit × Registry :=
  match registry.proposalAware.find? hint with
  | some _ => (.error (.config (.alreadyRegisteredWithProposal hint)), registry)
  | none => (.ok (), { registry with proposalAware := registry.proposalAware.set hint maker })

def lastBetween (low high : Hint) (table : Table Hint Maker) : Option Maker :=
  let range := (table.dropWhile fun entry => entry.1 < low).takeWhile fun entry => !(high < entry.1)
  range.getLast?.map Prod.snd

def findCompatible (table : Table Hint Maker) (hint : Hint) : Option Maker :=
  match table.find? hint with
  | some maker => some maker
  | none =>
    let major := hint.version.major
    lastBetween ⟨hint.kind, ⟨major, 0, 0⟩⟩ ⟨hint.kind, ⟨major, 65535, 65535⟩⟩ table

def hints (registry : Registry) : List Hint :=
  registry.stateOnly.keys ++ registry.proposalAware.keys

def versionBrief (v : Version) : String :=
  s!"Version \x7b major: {v.major.toNat}, minor: {v.minor.toNat}, patch: {v.patch.toNat} \x7d"

def hintBrief (hint : Hint) : String :=
  s!"Hint \x7b kind: {Text.quoted hint.kind}, version: {versionBrief hint.version} \x7d"

def keysBrief (table : Table Hint Maker) : String :=
  "[" ++ String.intercalate ", " (table.keys.map hintBrief) ++ "]"

def brief (registry : Registry) : String :=
  "ProcessorRegistry \x7b state_only: " ++ keysBrief registry.stateOnly ++ ", proposal_aware: " ++
    keysBrief registry.proposalAware ++ " \x7d"

structure Site where
  height : Height
  proposal : Option Proposal
  reader : Reader

def make (maker : Maker) (workshop : Workshop) (site : Site) :
    Except Fault (Processor × Workshop) :=
  match maker with
  | .builtIn kind => .ok (workshop.take (.builtIn kind) site.height site.proposal site.reader)
  | .custom create => do
    let service ← create site.height site.proposal site.reader
    return workshop.take (.custom service) site.height site.proposal site.reader

-- Entries that need no proposal come first and are not told of it.
def choose (registry : Registry) (proposal : Option Proposal) (hint : Hint) :
    Except Fault (Maker × Option Proposal) :=
  match findCompatible registry.stateOnly hint with
  | some maker => .ok (maker, none)
  | none =>
    match findCompatible registry.proposalAware hint with
    | none => .error (.unregistered hint)
    | some maker =>
      match proposal with
      | none => .error (.config (.proposalNeeded hint))
      | some _ => .ok (maker, proposal)

def dispatch (registry : Registry) (workshop : Workshop) (site : Site) (hint : Hint) :
    Except Fault (Processor × Workshop) := do
  let (maker, told) ← registry.choose site.proposal hint
  make maker workshop { site with proposal := told }

def standard : Registry where
  stateOnly := [FactKind.transfer, .createAccount, .createContract, .withdraw, .registerModel,
    .createDid, .updateDocument].foldl
      (fun table kind => table.set kind.operationHint (.builtIn kind)) []
  proposalAware := [(FactKind.candidate.operationHint, .builtIn .candidate)]

end Registry
end SignedLedger

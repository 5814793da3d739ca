import SignedLedger.Pipeline.Authorization
import SignedLedger.Pipeline.Consistency
import SignedLedger.Session.Cancellation
import SignedLedger.Session.Metrics
import SignedLedger.Session.Registry

-- Sessions. An engine hands out sessions, each for one height. A session admits
-- operations, works out what admitted ones write, and remembers the claims and
-- the processors it has taken until it ends.
namespace SignedLedger

def exemptNames : List String :=
  ["suffrage-join-operation", "suffrage-disjoin-operation", "suffrage-candidate-operation",
    "network-policy-operation"]

def Hint.isExempt (hint : Hint) : Bool := exemptNames.contains hint.kind

def checkDuplication (tracker : Tracker) (op : Operation) : Check Unit × Tracker :=
  if op.hint.isExempt then (.ok (), tracker)
  else
    match op.fact.claims? with
    | none => (fail (.missingCapability op.hint .claims), tracker)
    | some claims => tracker.take claims

structure DuplicationRule where
  check : Tracker → Operation → Check Unit × Tracker

def DuplicationRule.claims : DuplicationRule := ⟨checkDuplication⟩

-- What an operation is served with: a constructor, and the proposal that it is told of.
structure DispatchRule where
  choose : Registry → Registry.Site → Operation → Except Fault (Maker × Option Proposal)

def DispatchRule.registry : DispatchRule :=
  ⟨fun registry site op => registry.choose site.proposal op.hint⟩

structure Settings where
  registry : Registry
  network : NetworkId
  limits : Limits
  duplication : DuplicationRule
  dispatch : DispatchRule

-- A session that has ended, or was never checked out, has neither tracker nor
-- tracked processors.
structure Session where
  height : Height
  proposal : Option Proposal
  tracker : Option Tracker
  tracked : Option (List Processor)

namespace Session

def ended : Session := ⟨Height.zero, none, none, none⟩

def clear (_ : Session) : Session := ended

def claimCount (s : Session) : Nat := (s.tracker.map Tracker.size).getD 0

def trackedCount (s : Session) : Nat := (s.tracked.map List.length).getD 0

def requireTracker (s : Session) : Except Fault Tracker :=
  match s.tracker with
  | some tracker => .ok tracker
  | none => .error (.invariant .sessionEnded)

def track (s : Session) (processor : Processor) : Except Fault Session :=
  match s.tracked with
  | some processors => .ok { s with tracked := some (processors ++ [processor]) }
  | none => .error (.invariant .sessionEnded)

def withTracker (s : Session) (tracker : Tracker) : Session := { s with tracker := some tracker }

def brief (s : Session) : String :=
  let proposal := if s.proposal.isSome then "true" else "false"
  "OperationProcessor \x7b height: Height(" ++ toString s.height ++ "), proposal: " ++ proposal ++
    ", duplication_keys: " ++ toString s.claimCount ++ ", tracked_processors: " ++
    toString s.trackedCount ++ " \x7d"

end Session

def Settings.find (settings : Settings) (workshop : Workshop) (s : Session) (op : Operation)
    (reader : Reader) : Except Fault (Processor × Workshop) := do
  let (maker, told) ← settings.dispatch.choose settings.registry ⟨s.height, s.proposal, reader⟩ op
  Registry.make maker workshop ⟨s.height, told, reader⟩

def checkEntry (network : NetworkId) (op : Operation) (reader : Reader) : Check Unit := do
  authorize network op reader
  checkCapabilities op reader

def permission (settings : Settings) (processor : Processor) (ctx : Context) (op : Operation)
    (reader : Reader) : Check Unit := do
  checkEntry settings.network op reader
  let entered := ctx.after reader (checkEntry settings.network op)
  entered.ensureActive
  processor.permit op
  let admitted := entered.after reader fun r => (processor.reading r).permit op
  admitted.ensureActive

-- The claims come last, so that an operation that is refused before holds none.
def admission (settings : Settings) (s : Session) (processor : Processor) (ctx : Context)
    (op : Operation) (reader : Reader) : Check Unit × Session :=
  match permission settings processor ctx op reader with
  | .error failure => (.error failure, s)
  | .ok () =>
    match s.requireTracker with
    | .error fault => (fail fault, s)
    | .ok tracker =>
      let (result, left) := settings.duplication.check tracker op
      (result, s.withTracker left)

def typeAndFeeValues (processor : Processor) (op : Operation) (reader : Reader) :
    Check (List MergeValue) := do
  let values ← processor.effects op
  return values ++ (← op.feeValues reader)

def outcome (processor : Processor) (ctx : Context) (op : Operation) (reader : Reader) :
    Check (List MergeValue) := do
  let values ← typeAndFeeValues processor op reader
  (ctx.after reader fun r => typeAndFeeValues (processor.reading r) op r).ensureActive
  checkBalances reader values
  return values

structure Step (α : Type) where
  result : Check α
  session : Session
  workshop : Workshop

def trackAnd {α : Type} (s : Session) (workshop : Workshop) (processor : Processor)
    (result : Check α) : Step α :=
  match s.track processor with
  | .error fault => ⟨fail fault, s, workshop⟩
  | .ok tracked => ⟨result, tracked, workshop⟩

def checkForm (settings : Settings) (op : Operation) : Check Unit := do
  op.fact.validate settings.limits
  op.verifySigns settings.network

-- The processor is tracked whatever it answers.
def runPreProcess (settings : Settings) (workshop : Workshop) (s : Session) (ctx : Context)
    (op : Operation) (reader : Reader) : Step Unit :=
  match checkForm settings op with
  | .error failure => ⟨.error failure, s, workshop⟩
  | .ok () =>
    match settings.find workshop s op reader with
    | .error fault => ⟨fail fault, s, workshop⟩
    | .ok (processor, rest) =>
      let (result, left) := admission settings s processor ctx op reader
      trackAnd left rest processor result

def runProcess (settings : Settings) (workshop : Workshop) (s : Session) (ctx : Context)
    (op : Operation) (reader : Reader) : Step (List MergeValue) :=
  match settings.find workshop s op reader with
  | .error fault => ⟨fail fault, s, workshop⟩
  | .ok (processor, rest) => trackAnd s rest processor (outcome processor ctx op reader)

structure Engine where
  settings : Settings
  metrics : Metrics
  sessions : FreeList Session
  workshop : Workshop
  closings : List Closing

structure Call (α : Type) where
  answer : Except Fault α
  session : Session
  engine : Engine

inductive Admission where
  | admitted
  | rejected (reason : Reason)
  deriving DecidableEq

structure Outcome where
  values : List MergeValue
  reason : Option Reason
  deriving DecidableEq

@[match_pattern]
def Outcome.accepted (values : List MergeValue) : Outcome := ⟨values, none⟩

@[match_pattern]
def Outcome.rejected (reason : Reason) : Outcome := ⟨[], some reason⟩

namespace Engine

def new (settings : Settings) (capacity processorCapacity : Nat) : Engine :=
  ⟨settings, Metrics.zero, FreeList.empty capacity, Workshop.empty processorCapacity, []⟩

def checkout (e : Engine) (height : Height) (proposal : Option Proposal) : Session × Engine :=
  let (session, sessions) := e.sessions.take Session.ended
  ({ session with
      height
      proposal
      tracker := some (session.tracker.getD Tracker.empty)
      tracked := some (session.tracked.getD []) },
    { e with sessions })

def withWorkshop (e : Engine) (workshop : Workshop) : Engine := { e with workshop }

def rejecting (e : Engine) (reason : Reason) : Engine :=
  { e with metrics := e.metrics.countRejection reason.kind }

def preProcess (e : Engine) (s : Session) (ctx : Context) (op : Operation) (reader : Reader) :
    Call Admission :=
  match ctx.ensureActive with
  | .error fault => ⟨.error fault, s, e⟩
  | .ok () =>
    let counted := { e with metrics := e.metrics.countPreprocess }
    let step := runPreProcess e.settings e.workshop s ctx op reader
    let after := counted.withWorkshop step.workshop
    match step.result with
    | .ok () => ⟨.ok .admitted, step.session, after⟩
    | .error (.rejected reason) => ⟨.ok (.rejected reason), step.session, after.rejecting reason⟩
    | .error (.failed fault) => ⟨.error fault, step.session, after⟩

def process (e : Engine) (s : Session) (ctx : Context) (op : Operation) (reader : Reader) :
    Call Outcome :=
  match ctx.ensureActive with
  | .error fault => ⟨.error fault, s, e⟩
  | .ok () =>
    let counted := { e with metrics := e.metrics.countProcess }
    let step := runProcess e.settings e.workshop s ctx op reader
    let after := counted.withWorkshop step.workshop
    match step.result with
    | .ok values => ⟨.ok (.accepted values), step.session, after⟩
    | .error (.rejected reason) => ⟨.ok (.rejected reason), step.session, after.rejecting reason⟩
    | .error (.failed fault) => ⟨.error fault, step.session, after⟩

def finish (e : Engine) (s : Session) (cancelled : Bool) : Engine :=
  let (closings, workshop) := e.workshop.closeAll (s.tracked.getD [])
  { e with
    metrics := e.metrics.countEnd cancelled
    sessions := e.sessions.put Session.clear s
    workshop
    closings := e.closings ++ closings }

def close (e : Engine) (s : Session) : Engine := e.finish s false

def cancel (e : Engine) (s : Session) : Engine := e.finish s true

end Engine
end SignedLedger

import SignedLedger.Decimal.Arithmetic
import SignedLedger.State.Lookup
import SignedLedger.Table

-- Deferred writes. An operation answers with merge values; at the end of a block
-- all values of one key are folded into one state. Balance changes add up, every
-- other value is written once.
namespace SignedLedger

inductive MergerKind where
  | set
  | balance
  deriving DecidableEq

inductive MergeValue where
  | set (key : String) (value : StateValue)
  | credit (address : Address) (amount : Amount)
  | debit (address : Address) (amount : Amount)
  deriving DecidableEq

namespace MergeValue

def key : MergeValue → String
  | .set key _ => key
  | .credit address amount => StateKey.balance address amount.currency
  | .debit address amount => StateKey.balance address amount.currency

def value : MergeValue → StateValue
  | .set _ value => value
  | .credit _ amount => .addBalance amount
  | .debit _ amount => .deductBalance amount

def kind : MergeValue → MergerKind
  | .set _ _ => .set
  | .credit _ _ => .balance
  | .debit _ _ => .balance

end MergeValue

def pushOperation (operations : List Digest) (operation : Digest) : List Digest :=
  if operations.contains operation then operations else operations ++ [operation]

structure SetMerger where
  value : Option StateValue
  deriving DecidableEq

structure BalanceMerger where
  currency : Currency
  committed : Decimal
  delta : Decimal
  deriving DecidableEq

inductive MergerState where
  | set (merger : SetMerger)
  | balance (merger : BalanceMerger)
  deriving DecidableEq

structure Merger where
  key : String
  height : Height
  state : MergerState
  operations : List Digest
  deriving DecidableEq

namespace Merger

def kind (m : Merger) : MergerKind :=
  match m.state with
  | .set _ => .set
  | .balance _ => .balance

def startBalance (key : String) (existing : Option State) : Except Fault BalanceMerger :=
  match StateKey.readBalance? key with
  | none => .error (.invariant (.notBalanceKey key))
  | some (_, currency) =>
    match existing with
    | none => .ok ⟨currency, Decimal.zero, Decimal.zero⟩
    | some state =>
      match state.value with
      | .balance amount => .ok ⟨currency, amount.value, Decimal.zero⟩
      | other => .error (.valueMismatch (.value .balance) other.kind)

def start (kind : MergerKind) (height : Height) (key : String) (existing : Option State) :
    Except Fault Merger :=
  match kind with
  | .set => .ok ⟨key, height, .set ⟨none⟩, []⟩
  | .balance => do
    let merger ← startBalance key existing
    return ⟨key, height, .balance merger, []⟩

def mergeSet (key : String) (merger : SetMerger) (value : StateValue) : Except Fault SetMerger :=
  match merger.value with
  | none => .ok ⟨some value⟩
  | some current =>
    if current.agrees value then .ok merger else .error (.invariant (.conflictingWrites key))

def ownAmount (key : String) (merger : BalanceMerger) (amount : Amount) : Except Fault Decimal :=
  if amount.currency = merger.currency then .ok amount.value
  else .error (.invariant (.foreignCurrency amount.currency key))

def withDelta (key : String) (merger : BalanceMerger) : Option Decimal → Except Fault BalanceMerger
  | some delta => .ok { merger with delta }
  | none => .error (.arithmetic (.balanceDelta key))

def mergeBalance (key : String) (merger : BalanceMerger) (value : StateValue) :
    Except Fault BalanceMerger :=
  match value with
  | .addBalance amount => do
    let change ← ownAmount key merger amount
    withDelta key merger (merger.delta.add? change)
  | .deductBalance amount => do
    let change ← ownAmount key merger amount
    withDelta key merger (merger.delta.sub? change)
  | other => .error (.valueMismatch .balanceDelta other.kind)

def mergeState (key : String) (value : StateValue) : MergerState → Except Fault MergerState
  | .set merger => do return .set (← mergeSet key merger value)
  | .balance merger => do return .balance (← mergeBalance key merger value)

-- A merge that fails leaves the merger as it was.
def merge (m : Merger) (value : StateValue) (operation : Digest) : Except Fault Merger := do
  let state ← mergeState m.key value m.state
  return { m with state, operations := pushOperation m.operations operation }

def closeBalance (key : String) (merger : BalanceMerger) : Except Fault StateValue :=
  match merger.committed.add? merger.delta with
  | none => .error (.arithmetic (.balance key))
  | some total =>
    if total.isNegative then .error (.invariant (.negativeBalance total key))
    else .ok (.balance ⟨merger.currency, total⟩)

def closeValue (m : Merger) : Except Fault StateValue :=
  match m.state with
  | .set ⟨some value⟩ => .ok value
  | .set ⟨none⟩ => .error (.invariant (.nothingMerged m.key))
  | .balance merger => closeBalance m.key merger

def close (m : Merger) : Except Fault State := do
  let value ← m.closeValue
  return ⟨m.key, m.height, value, m.operations⟩

end Merger

abbrev Batch := Digest × List MergeValue

abbrev Mergers := Table String Merger

def mergerFor (height : Height) (reader : Reader) (mergers : Mergers) (value : MergeValue) :
    Except Fault Merger :=
  match mergers.find? value.key with
  | some merger => .ok merger
  | none => do Merger.start value.kind height value.key (← reader value.key)

def mergeInto (height : Height) (reader : Reader) (mergers : Mergers)
    (touch : Digest × MergeValue) : Except Fault Mergers := do
  let value := touch.2
  let merger ← mergerFor height reader mergers value
  if merger.kind = value.kind then
    return mergers.set value.key (← merger.merge value.value touch.1)
  else throw (.invariant (.mixedMergers value.key))

def touches (batches : List Batch) : List (Digest × MergeValue) :=
  batches.flatMap fun batch => batch.2.map fun value => (batch.1, value)

def applyMerges (height : Height) (batches : List Batch) (reader : Reader) :
    Except Fault (List State) := do
  let mergers ← (touches batches).foldlM (mergeInto height reader) []
  mergers.mapM fun entry => entry.2.close

end SignedLedger

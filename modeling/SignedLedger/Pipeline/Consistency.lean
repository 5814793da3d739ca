import SignedLedger.State.Merge

-- Whether the balance changes of one operation can be paid from the balances
-- that are stored now.
namespace SignedLedger

def signedChange : StateValue → Except Fault Decimal
  | .addBalance amount => .ok amount.value
  | .deductBalance amount => .ok amount.value.neg
  | other => .error (.valueMismatch .balanceDelta other.kind)

abbrev Deltas := Table String Decimal

def addDelta (deltas : Deltas) (value : MergeValue) : Except Fault Deltas :=
  if StateKey.isBalance value.key then do
    let change ← signedChange value.value
    match ((deltas.find? value.key).getD Decimal.zero).add? change with
    | some delta => return deltas.set value.key delta
    | none => throw (.arithmetic (.balanceDelta value.key))
  else .ok deltas

def balanceDeltas (values : List MergeValue) : Except Fault Deltas := values.foldlM addDelta []

def resultingBalance (reader : Reader) (key : String) (delta : Decimal) :
    Except Fault (Decimal × Decimal) := do
  let committed := (← Lookup.balanceByKey reader key).getD Decimal.zero
  match committed.add? delta with
  | some resulting => return (resulting, committed)
  | none => throw (.arithmetic (.balance key))

def checkDelta (reader : Reader) (entry : String × Decimal) : Check Unit := do
  let (key, delta) := entry
  let (resulting, committed) ← resultingBalance reader key delta
  if resulting.isNegative then
    match StateKey.readBalance? key with
    | none => fail (.invariant (.malformedBalanceKey key))
    | some (address, currency) =>
      reject .insufficientBalance
        s!"{address} short of {resulting.neg} {currency}: balance {committed}"
  else return ()

def checkBalances (reader : Reader) (values : List MergeValue) : Check Unit := do
  let deltas ← balanceDeltas values
  deltas.forM (checkDelta reader)

end SignedLedger

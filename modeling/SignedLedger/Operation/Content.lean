import SignedLedger.Failure
import SignedLedger.Limits
import SignedLedger.State.Bytes
import SignedLedger.State.Merge

-- What the facts of several types have in common: tokens, amounts, fee bases,
-- access to contracts, and the rules that hold without looking at any state.
namespace SignedLedger

def checkToken (token : List UInt8) : Check Unit :=
  require (!token.isEmpty) .invalidFact "empty token"

def checkItemCount (count limit : Nat) : Check Unit := do
  require (count ≠ 0) .invalidFact "empty items"
  require (count ≤ limit) .limitExceeded s!"{count} items over limit {limit}"

def checkEachAmount (seen : List Currency) : List Amount → Check Unit
  | [] => .ok ()
  | amount :: rest => do
    require (decide (Decimal.zero < amount.value)) .invalidFact s!"non-positive amount {amount}"
    require (!seen.contains amount.currency) .invalidFact
      s!"duplicated currency {amount.currency} in item"
    checkEachAmount (amount.currency :: seen) rest

def checkAmounts (limits : Limits) (amounts : List Amount) : Check Unit := do
  require (!amounts.isEmpty) .invalidFact "empty amounts"
  require (amounts.length ≤ limits.maxAmountsPerItem) .limitExceeded
    s!"{amounts.length} amounts over limit {limits.maxAmountsPerItem}"
  checkEachAmount [] amounts

abbrev FeeBase := Table Currency (List Decimal)

def FeeBase.add (base : FeeBase) (amount : Amount) : FeeBase :=
  base.set amount.currency ((base.find? amount.currency).getD [] ++ [amount.value])

def FeeBase.ofAmounts (amounts : List Amount) : FeeBase := amounts.foldl FeeBase.add []

def FeeBase.flat (currency : Currency) : FeeBase := [(currency, [Decimal.zero])]

structure FeeTerms where
  payer : Address
  base : FeeBase
  deriving DecidableEq

def addTotal (overflow : Currency → Overflow) (totals : Table Currency Decimal) (amount : Amount) :
    Except Fault (Table Currency Decimal) :=
  match ((totals.find? amount.currency).getD Decimal.zero).add? amount.value with
  | some total => .ok (totals.set amount.currency total)
  | none => .error (.arithmetic (overflow amount.currency))

def totalsOf (overflow : Currency → Overflow) (amounts : List Amount) :
    Except Fault (Table Currency Decimal) :=
  amounts.foldlM (addTotal overflow) []

def debitTotals (payer : Address) (totals : Table Currency Decimal) : List MergeValue :=
  totals.map fun entry => .debit payer ⟨entry.1, entry.2⟩

inductive StatusDemand where
  | any
  | active
  | inactive
  deriving DecidableEq

namespace StatusDemand

def allows : StatusDemand → Bool → Bool
  | .any, _ => true
  | .active, isActive => isActive
  | .inactive, isActive => !isActive

def text : StatusDemand → String
  | .any => "Any"
  | .active => "Active"
  | .inactive => "Inactive"

end StatusDemand

structure ContractAccess where
  contract : Address
  actor : Address
  status : StatusDemand
  deriving DecidableEq

end SignedLedger

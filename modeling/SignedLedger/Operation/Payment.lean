import SignedLedger.Operation.Claim
import SignedLedger.Operation.Content

-- Moving money between accounts that exist: transfers out of the sender, and
-- withdrawals from contracts to the sender.
namespace SignedLedger

structure Payment where
  party : Address
  amounts : List Amount
  deriving DecidableEq

def Payment.encode (p : Payment) : List UInt8 :=
  p.party.encode ++ Binary.list Amount.encode p.amounts

def allAmounts (items : List Payment) : List Amount := items.flatMap Payment.amounts

def checkParties (limits : Limits) (sender : Address) (itself : String) (twice : String)
    (seen : List Address) : List Payment → Check Unit
  | [] => .ok ()
  | item :: rest => do
    checkAmounts limits item.amounts
    require (item.party ≠ sender) .invalidFact itself
    require (!seen.contains item.party) .invalidFact s!"duplicated {twice} {item.party}"
    checkParties limits sender itself twice (item.party :: seen) rest

structure Transfer where
  token : List UInt8
  sender : Address
  items : List Payment
  deriving DecidableEq

namespace Transfer

def encode (f : Transfer) : List UInt8 :=
  Binary.blob f.token ++ f.sender.encode ++ Binary.list Payment.encode f.items

def validate (limits : Limits) (f : Transfer) : Check Unit := do
  checkToken f.token
  checkItemCount f.items.length limits.maxItems
  checkParties limits f.sender s!"sender {f.sender} sends to itself" "receiver" [] f.items

def claims (f : Transfer) : ClaimSet := ClaimSet.ofList [(.sender, f.sender.text)]

def feeTerms (f : Transfer) : FeeTerms := ⟨f.sender, FeeBase.ofAmounts (allAmounts f.items)⟩

def permitAmount (reader : Reader) (sender : Address) (amount : Amount) : Check Unit := do
  let _ ← Lookup.existingCurrencyDesign reader amount.currency
  let _ ← Lookup.existingBalance reader sender amount.currency

def permitItem (reader : Reader) (sender : Address) (item : Payment) : Check Unit := do
  let _ ← Lookup.existingAccount reader item.party
  item.amounts.forM (permitAmount reader sender)

def permit (reader : Reader) (f : Transfer) : Check Unit := do
  let _ ← Lookup.existingAccount reader f.sender
  Lookup.ensureNotContract reader f.sender
  f.items.forM (permitItem reader f.sender)

def credits (f : Transfer) : List MergeValue :=
  f.items.flatMap fun item => item.amounts.map (MergeValue.credit item.party)

def effects (f : Transfer) : Except Fault (List MergeValue) := do
  let totals ← totalsOf .transferTotal (allAmounts f.items)
  return debitTotals f.sender totals ++ f.credits

end Transfer

structure Withdraw where
  token : List UInt8
  sender : Address
  items : List Payment
  deriving DecidableEq

namespace Withdraw

def encode (f : Withdraw) : List UInt8 :=
  Binary.blob f.token ++ f.sender.encode ++ Binary.list Payment.encode f.items

def validate (limits : Limits) (f : Withdraw) : Check Unit := do
  checkToken f.token
  checkItemCount f.items.length limits.maxItems
  checkParties limits f.sender s!"{f.sender} withdraws from itself" "target" [] f.items

def claims (f : Withdraw) : ClaimSet := ClaimSet.ofList [(.sender, f.sender.text)]

def feeTerms (f : Withdraw) : FeeTerms := ⟨f.sender, FeeBase.ofAmounts (allAmounts f.items)⟩

def ownerOnly (f : Withdraw) : List ContractAccess :=
  f.items.map fun item => ⟨item.party, f.sender, .any⟩

def permitAmount (reader : Reader) (target : Address) (amount : Amount) : Check Unit := do
  let _ ← Lookup.existingCurrencyDesign reader amount.currency
  let _ ← Lookup.existingBalance reader target amount.currency

def permitItem (reader : Reader) (item : Payment) : Check Unit := do
  let _ ← Lookup.existingContractStatus reader item.party
  item.amounts.forM (permitAmount reader item.party)

def permit (reader : Reader) (f : Withdraw) : Check Unit := f.items.forM (permitItem reader)

def effects (f : Withdraw) : List MergeValue :=
  f.items.flatMap fun item => item.amounts.flatMap fun amount =>
    [.debit item.party amount, .credit f.sender amount]

end Withdraw
end SignedLedger

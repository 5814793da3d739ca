import SignedLedger.Operation.Claim
import SignedLedger.Operation.Content

-- Opening accounts: user accounts with a key set, and contract accounts without
-- one that belong to the sender. Both are funded by the sender.
namespace SignedLedger

structure NewAccount where
  keys : AccountKeys
  amounts : List Amount
  deriving DecidableEq

structure Opening where
  address : Address
  item : NewAccount
  deriving DecidableEq

def checkOpenings (limits : Limits) (sender : Address) (seen : List Address) :
    List Opening → Check Unit
  | [] => .ok ()
  | opening :: rest => do
    let keyCount := opening.item.keys.keys.length
    checkAmounts limits opening.item.amounts
    require (keyCount ≤ limits.maxKeys) .limitExceeded
      s!"{keyCount} keys over limit {limits.maxKeys}"
    require (opening.address ≠ sender) .invalidFact s!"{sender} creates itself"
    require (!seen.contains opening.address) .invalidFact
      s!"duplicated new account {opening.address}"
    checkOpenings limits sender (opening.address :: seen) rest

def permitFunding (reader : Reader) (sender : Address) (amount : Amount) : Check Unit := do
  let design ← Lookup.existingCurrencyDesign reader amount.currency
  let minimum := design.policy.minBalance
  require (!decide (amount.value < minimum)) .invalidFact
    s!"{amount} below minimum balance {minimum} of {amount.currency}"
  let _ ← Lookup.existingBalance reader sender amount.currency

def permitOpening (reader : Reader) (sender : Address) (opening : Opening) : Check Unit := do
  Lookup.ensureAccountAbsent reader opening.address
  opening.item.amounts.forM (permitFunding reader sender)

def permitOpenings (reader : Reader) (sender : Address) (openings : List Opening) : Check Unit := do
  let _ ← Lookup.existingAccount reader sender
  openings.forM (permitOpening reader sender)

def openingAmounts (openings : List Opening) : List Amount :=
  openings.flatMap fun opening => opening.item.amounts

def fundingEffects (sender : Address) (openings : List Opening) :
    Except Fault (List MergeValue) := do
  let totals ← totalsOf .fundingTotal (openingAmounts openings)
  let credits := openings.flatMap fun opening =>
    opening.item.amounts.map (MergeValue.credit opening.address)
  return credits ++ debitTotals sender totals

structure CreateAccount where
  token : List UInt8
  sender : Address
  items : List NewAccount
  deriving DecidableEq

namespace CreateAccount

def opening (item : NewAccount) : Opening := ⟨item.keys.address, item⟩

def openings (f : CreateAccount) : List Opening := f.items.map opening

def addresses (f : CreateAccount) : List Address := f.openings.map Opening.address

def encodeItem (item : NewAccount) : List UInt8 :=
  item.keys.encode ++ Binary.list Amount.encode item.amounts ++ item.keys.address.encode

def encode (f : CreateAccount) : List UInt8 :=
  Binary.blob f.token ++ f.sender.encode ++ Binary.list encodeItem f.items

def validate (limits : Limits) (f : CreateAccount) : Check Unit := do
  checkToken f.token
  checkItemCount f.items.length limits.maxItems
  checkOpenings limits f.sender [] f.openings

def claims (f : CreateAccount) : ClaimSet :=
  ClaimSet.ofList ((.sender, f.sender.text) ::
    f.addresses.map fun address => (.newAccount, address.text))

def feeTerms (f : CreateAccount) : FeeTerms :=
  ⟨f.sender, FeeBase.ofAmounts (openingAmounts f.openings)⟩

def permit (reader : Reader) (f : CreateAccount) : Check Unit :=
  permitOpenings reader f.sender f.openings

def writes (opening : Opening) : MergeValue :=
  .set (StateKey.account opening.address)
    (.account (Account.withKeys opening.address opening.item.keys))

def effects (f : CreateAccount) : Except Fault (List MergeValue) := do
  let funding ← fundingEffects f.sender f.openings
  return f.openings.map writes ++ funding

end CreateAccount

structure CreateContract where
  token : List UInt8
  sender : Address
  items : List NewAccount
  deriving DecidableEq

namespace CreateContract

def opening (owner : Address) (item : NewAccount) : Opening :=
  ⟨item.keys.contractAddress owner, item⟩

def openings (f : CreateContract) : List Opening := f.items.map (opening f.sender)

def addresses (f : CreateContract) : List Address := f.openings.map Opening.address

def encodeItem (item : NewAccount) : List UInt8 :=
  item.keys.encode ++ Binary.list Amount.encode item.amounts

def encode (f : CreateContract) : List UInt8 :=
  Binary.blob f.token ++ f.sender.encode ++ Binary.list encodeItem f.items ++
    Binary.list Address.encode f.addresses

def validate (limits : Limits) (f : CreateContract) : Check Unit := do
  checkToken f.token
  checkItemCount f.items.length limits.maxItems
  checkOpenings limits f.sender [] f.openings

def claims (f : CreateContract) : ClaimSet :=
  ClaimSet.ofList ((.sender, f.sender.text) :: f.addresses.flatMap fun address =>
    [(.newAccount, address.text), (.contractAccount, address.text)])

def feeTerms (f : CreateContract) : FeeTerms :=
  ⟨f.sender, FeeBase.ofAmounts (openingAmounts f.openings)⟩

def permit (reader : Reader) (f : CreateContract) : Check Unit := do
  Lookup.ensureNotContract reader f.sender
  permitOpenings reader f.sender f.openings

def writes (owner : Address) (opening : Opening) : List MergeValue :=
  [.set (StateKey.account opening.address) (.account (Account.keyless opening.address)),
    .set (StateKey.contractAccount opening.address) (.contractAccount (ContractStatus.new owner))]

def effects (f : CreateContract) : Except Fault (List MergeValue) := do
  let funding ← fundingEffects f.sender f.openings
  return f.openings.flatMap (writes f.sender) ++ funding

end CreateContract
end SignedLedger

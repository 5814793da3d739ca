import SignedLedger.State.Key
import SignedLedger.State.Reader

-- Typed reads. A missing state is a rejection where the operation needs it; a
-- value of the wrong type is a fault.
namespace SignedLedger.Lookup

def typed {α : Type} (expected : ValueKind) (extract : StateValue → Option α) :
    Option State → Except Fault (Option α)
  | none => .ok none
  | some state =>
    match extract state.value with
    | some a => .ok (some a)
    | none => .error (.valueMismatch (.value expected) state.value.kind)

def read {α : Type} (reader : Reader) (key : String) (expected : ValueKind)
    (extract : StateValue → Option α) : Except Fault (Option α) := do
  typed expected extract (← reader key)

def existing {α : Type} (found : Except Fault (Option α)) (missing : String) : Check α := do
  match ← found with
  | some a => return a
  | none => reject .stateNotFound missing

def account (reader : Reader) (address : Address) : Except Fault (Option Account) :=
  read reader (StateKey.account address) .account fun
    | .account a => some a
    | _ => none

def existingAccount (reader : Reader) (address : Address) : Check Account :=
  existing (account reader address) s!"account {address} not found"

-- Any state under the account's key counts, whatever its value.
def ensureAccountAbsent (reader : Reader) (address : Address) : Check Unit := do
  let found ← reader (StateKey.account address)
  require found.isNone .stateExists s!"account {address} already exists"

def balanceByKey (reader : Reader) (key : String) : Except Fault (Option Decimal) :=
  read reader key .balance fun
    | .balance amount => some amount.value
    | _ => none

def balance (reader : Reader) (address : Address) (currency : Currency) :
    Except Fault (Option Decimal) :=
  balanceByKey reader (StateKey.balance address currency)

def existingBalance (reader : Reader) (address : Address) (currency : Currency) : Check Decimal :=
  existing (balance reader address currency) s!"balance of {currency} for {address} not found"

def currencyDesign (reader : Reader) (currency : Currency) :
    Except Fault (Option CurrencyDesign) :=
  read reader (StateKey.currencyDesign currency) .currencyDesign fun
    | .currencyDesign design => some design
    | _ => none

def existingCurrencyDesign (reader : Reader) (currency : Currency) : Check CurrencyDesign :=
  existing (currencyDesign reader currency) s!"currency {currency} not found"

def contractStatus (reader : Reader) (address : Address) : Except Fault (Option ContractStatus) :=
  read reader (StateKey.contractAccount address) .contractAccount fun
    | .contractAccount status => some status
    | _ => none

def existingContractStatus (reader : Reader) (address : Address) : Check ContractStatus :=
  existing (contractStatus reader address) s!"contract account {address} not found"

def ensureNotContract (reader : Reader) (address : Address) : Check Unit := do
  let found ← contractStatus reader address
  require found.isNone .contractStatus s!"{address} is a contract account"

def didDesign (reader : Reader) (contract : Address) : Except Fault (Option DidDesign) :=
  read reader (StateKey.didDesign contract) .didDesign fun
    | .didDesign design => some design
    | _ => none

def existingDidDesign (reader : Reader) (contract : Address) : Check DidDesign :=
  existing (didDesign reader contract) s!"did design of contract {contract} not found"

def didData (reader : Reader) (contract address : Address) : Except Fault (Option DidData) :=
  read reader (StateKey.didData contract address) .didData fun
    | .didData data => some data
    | _ => none

def didDocument (reader : Reader) (contract : Address) (did : String) :
    Except Fault (Option DidDocument) :=
  read reader (StateKey.didDocument contract did) .didDocument fun
    | .didDocument document => some document
    | _ => none

def existingDidDocument (reader : Reader) (contract : Address) (did : String) :
    Check DidDocument :=
  existing (didDocument reader contract did) s!"did document {did} not found"

def suffrageCandidates (reader : Reader) : Except Fault (List Address) := do
  let found ← read reader StateKey.suffrageCandidates .suffrageCandidates fun
    | .suffrageCandidates candidates => some candidates
    | _ => none
  return found.getD []

end SignedLedger.Lookup

import SignedLedger.Identity.AccountKeys
import SignedLedger.Identity.Currency

-- What the ledger stores. Decimals are compared as numbers when two values are
-- asked whether they agree; structural equality tells 1 from 1.0.
namespace SignedLedger

structure Account where
  address : Address
  keys : Option AccountKeys
  deriving DecidableEq

def Account.keyless (address : Address) : Account := ⟨address, none⟩

def Account.withKeys (address : Address) (keys : AccountKeys) : Account := ⟨address, some keys⟩

inductive FeeRule where
  | free
  | fixed (receiver : Address) (amount : Decimal)
  | proportional (receiver : Address) (ratio minimum maximum : Decimal)
  deriving DecidableEq

structure CurrencyPolicy where
  minBalance : Decimal
  fee : FeeRule
  itemFee : Option FeeRule
  deriving DecidableEq

structure CurrencyDesign where
  currency : Currency
  genesisAccount : Address
  totalSupply : Decimal
  policy : CurrencyPolicy
  deriving DecidableEq

structure ContractStatus where
  owner : Address
  isActive : Bool
  handlers : List Address
  deriving DecidableEq

def ContractStatus.new (owner : Address) : ContractStatus := ⟨owner, false, []⟩

def ContractStatus.admits (status : ContractStatus) (actor : Address) : Bool :=
  status.owner = actor || status.handlers.contains actor

structure DidDesign where
  method : String
  deriving DecidableEq

def DidDesign.didOf (design : DidDesign) (address : Address) : String :=
  "did:" ++ design.method ++ ":" ++ address.text

structure DidData where
  address : Address
  did : String
  deriving DecidableEq

structure VerificationMethod where
  id : String
  publicKey : PublicKey
  deriving DecidableEq

structure DidDocument where
  did : String
  controller : Address
  active : Bool
  authentication : List VerificationMethod
  deriving DecidableEq

def DidDocument.method? (document : DidDocument) (id : String) : Option VerificationMethod :=
  document.authentication.find? fun m => m.id = id

inductive StateValue where
  | account (account : Account)
  | balance (amount : Amount)
  | addBalance (amount : Amount)
  | deductBalance (amount : Amount)
  | currencyDesign (design : CurrencyDesign)
  | contractAccount (status : ContractStatus)
  | didDesign (design : DidDesign)
  | didData (data : DidData)
  | didDocument (document : DidDocument)
  | suffrageCandidates (candidates : List Address)
  deriving DecidableEq

inductive ValueKind where
  | account
  | balance
  | addBalance
  | deductBalance
  | currencyDesign
  | contractAccount
  | didDesign
  | didData
  | didDocument
  | suffrageCandidates
  deriving DecidableEq

def ValueKind.text : ValueKind → String
  | .account => "account"
  | .balance => "balance"
  | .addBalance => "add-balance"
  | .deductBalance => "deduct-balance"
  | .currencyDesign => "currency-design"
  | .contractAccount => "contract-account"
  | .didDesign => "did-design"
  | .didData => "did-data"
  | .didDocument => "did-document"
  | .suffrageCandidates => "suffrage-candidates"

instance : ToString ValueKind := ⟨ValueKind.text⟩

def StateValue.kind : StateValue → ValueKind
  | .account _ => .account
  | .balance _ => .balance
  | .addBalance _ => .addBalance
  | .deductBalance _ => .deductBalance
  | .currencyDesign _ => .currencyDesign
  | .contractAccount _ => .contractAccount
  | .didDesign _ => .didDesign
  | .didData _ => .didData
  | .didDocument _ => .didDocument
  | .suffrageCandidates _ => .suffrageCandidates

namespace FeeRule

def agrees : FeeRule → FeeRule → Bool
  | .free, .free => true
  | .fixed r a, .fixed r' a' => r = r' && decide (a.Same a')
  | .proportional r q lo hi, .proportional r' q' lo' hi' =>
    r = r' && decide (q.Same q') && decide (lo.Same lo') && decide (hi.Same hi')
  | _, _ => false

end FeeRule

namespace CurrencyPolicy

def agrees (a b : CurrencyPolicy) : Bool :=
  decide (a.minBalance.Same b.minBalance) && a.fee.agrees b.fee &&
    match a.itemFee, b.itemFee with
    | none, none => true
    | some x, some y => x.agrees y
    | _, _ => false

end CurrencyPolicy

namespace CurrencyDesign

def agrees (a b : CurrencyDesign) : Bool :=
  a.currency = b.currency && a.genesisAccount = b.genesisAccount &&
    decide (a.totalSupply.Same b.totalSupply) && a.policy.agrees b.policy

end CurrencyDesign

namespace StateValue

def agrees : StateValue → StateValue → Bool
  | .balance a, .balance b => a.agrees b
  | .addBalance a, .addBalance b => a.agrees b
  | .deductBalance a, .deductBalance b => a.agrees b
  | .currencyDesign a, .currencyDesign b => a.agrees b
  | a, b => a = b

end StateValue
end SignedLedger

import SignedLedger.Operation.Claim
import SignedLedger.Operation.Content

-- Decentralised identifiers, kept by contracts: registering a contract as a
-- registry, creating an identifier in it, and replacing a document's methods.
namespace SignedLedger

def checkApart (sender contract : Address) : Check Unit :=
  require (sender ≠ contract) .invalidFact s!"{sender} is both sender and contract"

structure RegisterModel where
  token : List UInt8
  sender : Address
  contract : Address
  method : String
  currency : Currency
  deriving DecidableEq

namespace RegisterModel

def encode (f : RegisterModel) : List UInt8 :=
  Binary.blob f.token ++ f.sender.encode ++ f.contract.encode ++ Binary.text f.method ++
    f.currency.encode

def methodValid (method : String) : Bool :=
  1 ≤ method.utf8ByteSize && method.utf8ByteSize ≤ 10 &&
    method.toList.all fun c => c.isLower || c.isDigit

def validate (f : RegisterModel) : Check Unit := do
  checkToken f.token
  checkApart f.sender f.contract
  require (methodValid f.method) .invalidFact s!"invalid did method {Text.quoted f.method}"

def claims (f : RegisterModel) : ClaimSet :=
  ClaimSet.ofList [(.contractAccount, f.contract.text)]

def feeTerms (f : RegisterModel) : FeeTerms := ⟨f.sender, FeeBase.flat f.currency⟩

def ownerOnly (f : RegisterModel) : List ContractAccess := [⟨f.contract, f.sender, .inactive⟩]

def permit (reader : Reader) (f : RegisterModel) : Check Unit := do
  let _ ← Lookup.existingCurrencyDesign reader f.currency
  let design ← Lookup.didDesign reader f.contract
  require design.isNone .stateExists s!"did design of contract {f.contract} already registered"

def effects (reader : Reader) (f : RegisterModel) : Check (List MergeValue) := do
  let status ← Lookup.existingContractStatus reader f.contract
  return [.set (StateKey.didDesign f.contract) (.didDesign ⟨f.method⟩),
    .set (StateKey.contractAccount f.contract) (.contractAccount { status with isActive := true })]

end RegisterModel

structure CreateDid where
  token : List UInt8
  sender : Address
  contract : Address
  authKey : PublicKey
  currency : Currency
  deriving DecidableEq

namespace CreateDid

def encode (f : CreateDid) : List UInt8 :=
  Binary.blob f.token ++ f.sender.encode ++ f.contract.encode ++ f.authKey.bytes ++
    f.currency.encode

def validate (f : CreateDid) : Check Unit := do
  checkToken f.token
  checkApart f.sender f.contract

def claims (f : CreateDid) : ClaimSet :=
  ClaimSet.ofList [(.didSubject, f.contract.text ++ ":" ++ f.sender.text)]

def feeTerms (f : CreateDid) : FeeTerms := ⟨f.sender, FeeBase.flat f.currency⟩

def permit (reader : Reader) (f : CreateDid) : Check Unit := do
  let _ ← Lookup.existingCurrencyDesign reader f.currency
  let _ ← Lookup.existingDidDesign reader f.contract
  let data ← Lookup.didData reader f.contract f.sender
  require data.isNone .stateExists s!"{f.sender} already holds a did on {f.contract}"

def firstMethod (did : String) (key : PublicKey) : VerificationMethod :=
  ⟨did ++ "#auth-key-1", key⟩

def document (did : String) (f : CreateDid) : DidDocument :=
  ⟨did, f.sender, true, [firstMethod did f.authKey]⟩

def effects (reader : Reader) (f : CreateDid) : Check (List MergeValue) := do
  let design ← Lookup.existingDidDesign reader f.contract
  let did := design.didOf f.sender
  return [.set (StateKey.didData f.contract f.sender) (.didData ⟨f.sender, did⟩),
    .set (StateKey.didDocument f.contract did) (.didDocument (f.document did))]

end CreateDid

structure UpdateDocument where
  token : List UInt8
  sender : Address
  contract : Address
  did : String
  methods : List VerificationMethod
  currency : Currency
  deriving DecidableEq

namespace UpdateDocument

def encode (f : UpdateDocument) : List UInt8 :=
  Binary.blob f.token ++ f.sender.encode ++ f.contract.encode ++ Binary.text f.did ++
    Binary.list VerificationMethod.encode f.methods ++ f.currency.encode

def checkMethods (did : String) (seen : List String) : List VerificationMethod → Check Unit
  | [] => .ok ()
  | method :: rest => do
    require ((did ++ "#").toList.isPrefixOf method.id.toList) .invalidFact
      s!"method {method.id} outside {did}"
    require (!seen.contains method.id) .invalidFact s!"duplicated method {method.id}"
    checkMethods did (method.id :: seen) rest

def validate (limits : Limits) (f : UpdateDocument) : Check Unit := do
  checkToken f.token
  checkApart f.sender f.contract
  require (!f.methods.isEmpty) .invalidFact "document without authentication"
  require (f.methods.length ≤ limits.maxDidMethods) .limitExceeded
    s!"{f.methods.length} methods over limit {limits.maxDidMethods}"
  checkMethods f.did [] f.methods

def claims (f : UpdateDocument) : ClaimSet :=
  ClaimSet.ofList [(.didDocument, f.contract.text ++ ":" ++ f.did)]

def feeTerms (f : UpdateDocument) : FeeTerms := ⟨f.sender, FeeBase.flat f.currency⟩

def controlledDocument (reader : Reader) (f : UpdateDocument) : Check DidDocument := do
  let document ← Lookup.existingDidDocument reader f.contract f.did
  require (document.controller = f.sender) .unauthorized s!"{f.sender} does not control {f.did}"
  require document.active .unauthorized s!"did document {f.did} deactivated"
  return document

def permit (reader : Reader) (f : UpdateDocument) : Check Unit := do
  let _ ← Lookup.existingCurrencyDesign reader f.currency
  let _ ← f.controlledDocument reader

def effects (reader : Reader) (f : UpdateDocument) : Check (List MergeValue) := do
  let document ← f.controlledDocument reader
  return [.set (StateKey.didDocument f.contract f.did)
    (.didDocument { document with authentication := f.methods })]

end UpdateDocument
end SignedLedger

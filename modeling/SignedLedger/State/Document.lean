import SignedLedger.State.Basic
import SignedLedger.Text.Json

-- States as JSON documents: objects with their fields in order, variants as an
-- object with one field, keys and digests as lists of numbers.
namespace SignedLedger

def Json.bytes (bytes : List UInt8) : Json := .list (bytes.map fun b => .number b.toNat)

def Json.optional {α : Type} (document : α → Json) : Option α → Json
  | none => .null
  | some a => document a

def Json.tagged (tag : String) (content : Json) : Json := .object [(tag, content)]

def Decimal.document (a : Decimal) : Json := .text a.text

def Address.document (a : Address) : Json := .text a.text

def Amount.document (a : Amount) : Json :=
  .object [("currency", .text a.currency.text), ("value", a.value.document)]

def AccountKey.document (k : AccountKey) : Json :=
  .object [("key", Json.bytes k.key.bytes), ("weight", .number k.weight.toNat)]

def AccountKeys.document (set : AccountKeys) : Json :=
  .object [("keys", .list (set.keys.map AccountKey.document)),
    ("threshold", .number set.threshold.toNat)]

def Account.document (a : Account) : Json :=
  .object [("address", a.address.document), ("keys", Json.optional AccountKeys.document a.keys)]

def FeeRule.document : FeeRule → Json
  | .free => .text "Nil"
  | .fixed receiver amount =>
    Json.tagged "Fixed" (.object [("receiver", receiver.document), ("amount", amount.document)])
  | .proportional receiver ratio minimum maximum =>
    Json.tagged "Ratio" (.object [("receiver", receiver.document), ("ratio", ratio.document),
      ("min", minimum.document), ("max", maximum.document)])

def CurrencyPolicy.document (p : CurrencyPolicy) : Json :=
  .object [("min_balance", p.minBalance.document), ("feeer", p.fee.document),
    ("item_feeer", Json.optional FeeRule.document p.itemFee)]

def CurrencyDesign.document (d : CurrencyDesign) : Json :=
  .object [("currency", .text d.currency.text), ("genesis_account", d.genesisAccount.document),
    ("total_supply", d.totalSupply.document), ("policy", d.policy.document)]

def ContractStatus.document (s : ContractStatus) : Json :=
  .object [("owner", s.owner.document), ("is_active", .bool s.isActive),
    ("handlers", .list (s.handlers.map Address.document))]

def DidData.document (d : DidData) : Json :=
  .object [("address", d.address.document), ("did", .text d.did)]

def VerificationMethod.document (m : VerificationMethod) : Json :=
  .object [("id", .text m.id), ("public_key", Json.bytes m.publicKey.bytes)]

def DidDocument.document (d : DidDocument) : Json :=
  .object [("did", .text d.did), ("controller", d.controller.document), ("active", .bool d.active),
    ("authentication", .list (d.authentication.map VerificationMethod.document))]

def StateValue.document : StateValue → Json
  | .account a => Json.tagged "Account" a.document
  | .balance a => Json.tagged "Balance" a.document
  | .addBalance a => Json.tagged "AddBalance" a.document
  | .deductBalance a => Json.tagged "DeductBalance" a.document
  | .currencyDesign d => Json.tagged "CurrencyDesign" d.document
  | .contractAccount s => Json.tagged "ContractAccount" s.document
  | .didDesign d => Json.tagged "DidDesign" (.object [("method", .text d.method)])
  | .didData d => Json.tagged "DidData" d.document
  | .didDocument d => Json.tagged "DidDocument" d.document
  | .suffrageCandidates candidates =>
    Json.tagged "SuffrageCandidates" (.list (candidates.map Address.document))

def State.document (s : State) : Json :=
  .object [("key", .text s.key), ("height", .number s.height.value.toNat),
    ("value", s.value.document), ("operations", .list (s.operations.map fun d => Json.bytes d.bytes))]

def State.documents (states : List State) : Json := .list (states.map State.document)

end SignedLedger

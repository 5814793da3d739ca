import SignedLedger.Operation.Candidate
import SignedLedger.Operation.Declared
import SignedLedger.Operation.Did
import SignedLedger.Operation.NewAccount
import SignedLedger.Operation.Payment

-- Facts: the content that an operation is signed for. The pipeline asks a fact
-- for its capabilities and never for its type.
namespace SignedLedger

inductive Fact where
  | transfer (f : Transfer)
  | createAccount (f : CreateAccount)
  | createContract (f : CreateContract)
  | withdraw (f : Withdraw)
  | registerModel (f : RegisterModel)
  | createDid (f : CreateDid)
  | updateDocument (f : UpdateDocument)
  | candidate (f : Candidate)
  | declared (f : Declared)

namespace Fact

def kind? : Fact → Option FactKind
  | .transfer _ => some .transfer
  | .createAccount _ => some .createAccount
  | .createContract _ => some .createContract
  | .withdraw _ => some .withdraw
  | .registerModel _ => some .registerModel
  | .createDid _ => some .createDid
  | .updateDocument _ => some .updateDocument
  | .candidate _ => some .candidate
  | .declared _ => none

def hint : Fact → Hint
  | .transfer _ => FactKind.transfer.factHint
  | .createAccount _ => FactKind.createAccount.factHint
  | .createContract _ => FactKind.createContract.factHint
  | .withdraw _ => FactKind.withdraw.factHint
  | .registerModel _ => FactKind.registerModel.factHint
  | .createDid _ => FactKind.createDid.factHint
  | .updateDocument _ => FactKind.updateDocument.factHint
  | .candidate _ => FactKind.candidate.factHint
  | .declared f => f.hint

def token : Fact → List UInt8
  | .transfer f => f.token
  | .createAccount f => f.token
  | .createContract f => f.token
  | .withdraw f => f.token
  | .registerModel f => f.token
  | .createDid f => f.token
  | .updateDocument f => f.token
  | .candidate f => f.token
  | .declared f => f.token

def encodeHint (hint : Hint) : List UInt8 :=
  Binary.text hint.kind ++ Binary.littleEndian 2 hint.version.major.toNat ++
    Binary.littleEndian 2 hint.version.minor.toNat ++
    Binary.littleEndian 2 hint.version.patch.toNat

def body : Fact → List UInt8
  | .transfer f => f.encode
  | .createAccount f => f.encode
  | .createContract f => f.encode
  | .withdraw f => f.encode
  | .registerModel f => f.encode
  | .createDid f => f.encode
  | .updateDocument f => f.encode
  | .candidate f => f.encode
  | .declared f => f.content

def encode (fact : Fact) : List UInt8 :=
  match fact with
  | .declared f => f.content
  | _ => encodeHint fact.hint ++ fact.body

-- A fact of a built-in type is known by its hint and all of its content.
def digest (fact : Fact) : Digest :=
  match fact with
  | .declared f => f.digest
  | _ => Digest.of fact.encode

def validate (limits : Limits) : Fact → Check Unit
  | .transfer f => f.validate limits
  | .createAccount f => f.validate limits
  | .createContract f => f.validate limits
  | .withdraw f => f.validate limits
  | .registerModel f => f.validate
  | .createDid f => f.validate
  | .updateDocument f => f.validate limits
  | .candidate f => f.validate
  | .declared f => f.validate limits

def signer? : Fact → Option Address
  | .transfer f => some f.sender
  | .createAccount f => some f.sender
  | .createContract f => some f.sender
  | .withdraw f => some f.sender
  | .registerModel f => some f.sender
  | .createDid f => some f.sender
  | .updateDocument f => some f.sender
  | .candidate f => some f.candidate
  | .declared f => f.signer

def claims? : Fact → Option ClaimSet
  | .transfer f => some f.claims
  | .createAccount f => some f.claims
  | .createContract f => some f.claims
  | .withdraw f => some f.claims
  | .registerModel f => some f.claims
  | .createDid f => some f.claims
  | .updateDocument f => some f.claims
  | .candidate _ => none
  | .declared f => f.claims

def feeTerms? : Fact → Option FeeTerms
  | .transfer f => some f.feeTerms
  | .createAccount f => some f.feeTerms
  | .createContract f => some f.feeTerms
  | .withdraw f => some f.feeTerms
  | .registerModel f => some f.feeTerms
  | .createDid f => some f.feeTerms
  | .updateDocument f => some f.feeTerms
  | .candidate _ => none
  | .declared f => f.fee

def user? : Fact → Option Address
  | .createDid f => some f.sender
  | .updateDocument f => some f.sender
  | .declared f => f.user
  | _ => none

def ownerOnly? : Fact → Option (List ContractAccess)
  | .withdraw f => some f.ownerOnly
  | .registerModel f => some f.ownerOnly
  | .declared f => f.ownerOnly
  | _ => none

def activeContracts? : Fact → Option (List Address)
  | .createDid f => some [f.contract]
  | .updateDocument f => some [f.contract]
  | .declared f => f.activeContracts
  | _ => none

end Fact
end SignedLedger

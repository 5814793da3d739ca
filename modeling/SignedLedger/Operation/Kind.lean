import SignedLedger.Identity.Hint

namespace SignedLedger

inductive FactKind where
  | transfer
  | createAccount
  | createContract
  | withdraw
  | registerModel
  | createDid
  | updateDocument
  | candidate
  deriving DecidableEq

namespace FactKind

def all : List FactKind :=
  [.transfer, .createAccount, .createContract, .withdraw, .registerModel, .createDid,
    .updateDocument, .candidate]

def operationName : FactKind → String
  | .transfer => "currency-transfer-operation"
  | .createAccount => "currency-create-account-operation"
  | .createContract => "currency-create-contract-account-operation"
  | .withdraw => "currency-withdraw-operation"
  | .registerModel => "did-register-model-operation"
  | .createDid => "did-create-did-operation"
  | .updateDocument => "did-update-did-document-operation"
  | .candidate => "suffrage-candidate-operation"

def firstVersion : Version := ⟨0, 0, 1⟩

def operationHint (kind : FactKind) : Hint := ⟨kind.operationName, firstVersion⟩

def factHint (kind : FactKind) : Hint := ⟨kind.operationName ++ "-fact", firstVersion⟩

def typeName : FactKind → String
  | .transfer => "operation_engine::processors::transfer::TransferFact"
  | .createAccount => "operation_engine::processors::create_account::CreateAccountFact"
  | .createContract => "operation_engine::processors::contract_account::CreateContractAccountFact"
  | .withdraw => "operation_engine::processors::withdraw::WithdrawFact"
  | .registerModel => "operation_engine::processors::did::RegisterModelFact"
  | .createDid => "operation_engine::processors::did::CreateDidFact"
  | .updateDocument => "operation_engine::processors::did::UpdateDocumentFact"
  | .candidate => "operation_engine::processors::suffrage::SuffrageCandidateFact"

end FactKind
end SignedLedger

import SignedLedger.State.Key
import SignedLedger.State.Reader

namespace SignedLedger

inductive GenesisEntry where
  | account (account : Account)
  | balance (address : Address) (amount : Amount)
  | currency (design : CurrencyDesign)
  | contract (address : Address) (status : ContractStatus)
  | didDesign (contract : Address) (design : DidDesign)
  | did (contract : Address) (data : DidData) (document : DidDocument)
  | suffrageCandidates (candidates : List Address)
  deriving DecidableEq

namespace GenesisEntry

def writes : GenesisEntry → List (String × StateValue)
  | .account a => [(StateKey.account a.address, .account a)]
  | .balance a amount => [(StateKey.balance a amount.currency, .balance amount)]
  | .currency design => [(StateKey.currencyDesign design.currency, .currencyDesign design)]
  | .contract address status =>
    [(StateKey.account address, .account (Account.keyless address)),
      (StateKey.contractAccount address, .contractAccount status)]
  | .didDesign registry design => [(StateKey.didDesign registry, .didDesign design)]
  | .did registry data document =>
    [(StateKey.didData registry data.address, .didData data),
      (StateKey.didDocument registry document.did, .didDocument document)]
  | .suffrageCandidates candidates =>
    [(StateKey.suffrageCandidates, .suffrageCandidates candidates)]

def states (height : Height) (entry : GenesisEntry) : List State :=
  entry.writes.map fun write => ⟨write.1, height, write.2, []⟩

end GenesisEntry

def genesisStates (height : Height) (entries : List GenesisEntry) : List State :=
  entries.flatMap (GenesisEntry.states height)

end SignedLedger

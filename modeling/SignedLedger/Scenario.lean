import SignedLedger.Config.Basic
import SignedLedger.Session.Ledger
import SignedLedger.State.Document
import SignedLedger.State.Genesis

-- A worked scenario: a sender moves 100 to a receiver, at a fee of 1 for a
-- collector. A balance of 150 is enough for both, a balance of 100 is not.
namespace SignedLedger

structure Scenario where
  sender : Address
  receiver : Address
  collector : Address
  currency : Currency

namespace Scenario

def standard : Except Fault Scenario :=
  Except.mapError Fault.malformed do
    return ⟨← Address.ofString "senderA", ← Address.ofString "receiverB",
      ← Address.ofString "collectorF", ← Currency.ofString "CUR"⟩

def pair (n : UInt8) : KeyPair := ⟨List.replicate 32 n⟩

def whole (n : Nat) : Decimal := (Decimal.ofParts? n 0).getD Decimal.zero

def amount (s : Scenario) (n : Nat) : Amount := ⟨s.currency, whole n⟩

def policy (s : Scenario) : CurrencyPolicy := ⟨Decimal.zero, .fixed s.collector Decimal.one, none⟩

def opened (address : Address) (n : UInt8) : GenesisEntry :=
  .account (Account.withKeys address (AccountKeys.single (pair n).publicKey))

def entries (s : Scenario) (balance : Nat) : List GenesisEntry :=
  [.currency ⟨s.currency, s.collector, whole 1000000, s.policy⟩, opened s.sender 1,
    opened s.receiver 2, opened s.collector 3, .balance s.sender (s.amount balance),
    .balance s.receiver (s.amount 0), .balance s.collector (s.amount 0)]

def source (s : Scenario) (balance : Nat) : Source :=
  Source.sound (Store.empty.extend (genesisStates ⟨1⟩ (s.entries balance)))

def operation (s : Scenario) (network : NetworkId) : Operation :=
  let fact := Fact.transfer ⟨Text.utf8 "demo-transfer", s.sender, [⟨s.receiver, [s.amount 100]⟩]⟩
  let signature := (pair 1).sign (signMessage network fact.digest)
  ⟨FactKind.transfer.operationHint, fact, [⟨(pair 1).publicKey, signature, ⟨0, 0⟩⟩], Extensions.none⟩

def run (s : Scenario) (balance : Nat) (engine : Engine) :
    Except Fault (Option (List State) × Engine) := do
  let op := s.operation engine.settings.network
  let (session, opened) := engine.checkout ⟨2⟩ none
  let (call, entered) :=
    (Ledger.start (s.source balance) opened).preProcess 0 session Context.active op
  match ← call.answer with
  | .rejected _ => return (none, (entered.finish 0 call.session false).engine)
  | .admitted =>
    let (done, left) := entered.process 0 call.session Context.active op
    match (← done.answer).reason with
    | some _ => return (none, (left.finish 0 done.session false).engine)
    | none =>
      let (states, written) ← left.commit ⟨2⟩
      return (some states, (written.finish 0 done.session false).engine)

def engine (config : Config) : Engine :=
  let network := NetworkId.ofString config.networkId
  Engine.new ⟨Registry.standard, network, config.limits, .claims, .registry⟩
    config.sessionCapacity config.processorCapacity

def report (env : Config.Environment) : Except Fault (List String) := do
  let config ← Config.ofEnvironment env
  let s ← standard
  let (covered, middle) ← s.run 150 (engine config)
  let (short, last) ← s.run 100 middle
  let texts := [covered, short].filterMap fun found => found.map fun states =>
    (State.documents states).pretty
  return texts ++ [last.metrics.exposition]

end Scenario
end SignedLedger

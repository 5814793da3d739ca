import SignedLedger.Operation.Kind
import SignedLedger.State.Value

-- Two tiers of failure. A reason rejects one operation and lets the session go
-- on; a fault is a defect of wiring, storage or configuration and ends the call.
namespace SignedLedger

inductive ReasonKind where
  | duplicated
  | insufficientBalance
  | stateNotFound
  | stateExists
  | unauthorized
  | invalidFact
  | contractStatus
  | limitExceeded
  deriving DecidableEq

namespace ReasonKind

def all : List ReasonKind :=
  [.duplicated, .insufficientBalance, .stateNotFound, .stateExists, .unauthorized, .invalidFact,
    .contractStatus, .limitExceeded]

def text : ReasonKind → String
  | .duplicated => "duplicated"
  | .insufficientBalance => "insufficient_balance"
  | .stateNotFound => "state_not_found"
  | .stateExists => "state_exists"
  | .unauthorized => "unauthorized"
  | .invalidFact => "invalid_fact"
  | .contractStatus => "contract_status"
  | .limitExceeded => "limit_exceeded"

instance : ToString ReasonKind := ⟨text⟩

end ReasonKind

structure Reason where
  kind : ReasonKind
  message : String
  deriving DecidableEq

def Reason.text (r : Reason) : String := s!"{r.kind}: {r.message}"

inductive Capability where
  | signer
  | claims
  deriving DecidableEq

def Capability.text : Capability → String
  | .signer => "signer"
  | .claims => "duplication keys"

inductive Wanted where
  | value (kind : ValueKind)
  | balanceDelta
  deriving DecidableEq

def Wanted.text : Wanted → String
  | .value kind => kind.text
  | .balanceDelta => "balance delta"

inductive Violation where
  | conflictingWrites (key : String)
  | nothingMerged (key : String)
  | notBalanceKey (key : String)
  | foreignCurrency (currency : Currency) (key : String)
  | negativeBalance (total : Decimal) (key : String)
  | mixedMergers (key : String)
  | malformedBalanceKey (key : String)
  | negativeFee (amount : Decimal)
  | ratioOutside (ratio : Decimal)
  | boundsCross (minimum maximum : Decimal)
  | unbound
  | sessionEnded
  deriving DecidableEq

def Violation.text : Violation → String
  | .conflictingWrites key => s!"conflicting writes to {key}"
  | .nothingMerged key => s!"nothing merged into {key}"
  | .notBalanceKey key => s!"not a balance key: {key}"
  | .foreignCurrency currency key => s!"currency {currency} merged into {key}"
  | .negativeBalance total key => s!"negative balance {total} on {key}"
  | .mixedMergers key => s!"mixed merger kinds on {key}"
  | .malformedBalanceKey key => s!"malformed balance key {key}"
  | .negativeFee amount => s!"negative fixed fee {amount}"
  | .ratioOutside ratio => s!"fee ratio {ratio} outside 0..=1"
  | .boundsCross minimum maximum => s!"fee bounds [{minimum}, {maximum}] cannot clamp"
  | .unbound => "processor used while unbound"
  | .sessionEnded => "session used after close"

inductive Overflow where
  | balanceDelta (key : String)
  | balance (key : String)
  | fee (amount : Decimal)
  | feeTotal
  | transferTotal (currency : Currency)
  | fundingTotal (currency : Currency)
  deriving DecidableEq

def Overflow.text : Overflow → String
  | .balanceDelta key => s!"balance delta overflow on {key}"
  | .balance key => s!"balance overflow on {key}"
  | .fee amount => s!"fee overflow on {amount}"
  | .feeTotal => "fee total overflow"
  | .transferTotal currency => s!"transfer total overflow in {currency}"
  | .fundingTotal currency => s!"funding total overflow in {currency}"

inductive Misconfiguration where
  | alreadyRegistered (hint : Hint)
  | alreadyRegisteredWithProposal (hint : Hint)
  | proposalNeeded (hint : Hint)
  | poolCapacity (problem : Text.WholeError)
  | unreadableText
  | emptyNetwork
  | zeroLimits
  deriving DecidableEq

def Misconfiguration.text : Misconfiguration → String
  | .alreadyRegistered hint => s!"processor for {hint} already registered"
  | .alreadyRegisteredWithProposal hint => s!"proposal processor for {hint} already registered"
  | .proposalNeeded hint => s!"{hint} needs a proposal but the session has none"
  | .poolCapacity problem => s!"Invalid OPENGINE_PROCESSOR_POOL_CAPACITY: {problem.message}"
  | .unreadableText => "Failed to parse config"
  | .emptyNetwork => "network_id must not be empty"
  | .zeroLimits => "limits.max_items and limits.max_keys must be positive"

inductive Fault where
  | unregistered (hint : Hint)
  | missingCapability (hint : Hint) (capability : Capability)
  | factMismatch (expected : FactKind) (found : Hint)
  | valueMismatch (expected : Wanted) (found : ValueKind)
  | invariant (violation : Violation)
  | arithmetic (overflow : Overflow)
  | storage (message : String)
  | config (problem : Misconfiguration)
  | cancelled
  | io
  | malformed (problem : Malformed)
  | verification (verdict : Ed25519.Verdict)
  | other (message : String)
  deriving DecidableEq

def verdictText : Ed25519.Verdict → String
  | .highScalar => "Cannot use scalar with high-bit set"
  | .unusableKey => "Cannot decompress Edwards point"
  | .valid | .mismatch => "Verification equation was not satisfied"

def Fault.message : Fault → String
  | .unregistered hint => s!"Unregistered hint: {hint}; type needs registration"
  | .missingCapability hint capability =>
    s!"Missing capability: fact {hint} does not expose {capability.text}"
  | .factMismatch expected found => s!"Type mismatch: expected {expected.typeName}, found {found}"
  | .valueMismatch expected found => s!"Type mismatch: expected {expected.text}, found {found}"
  | .invariant violation => s!"Invariant violation: {violation.text}"
  | .arithmetic overflow => s!"Arithmetic error: {overflow.text}"
  | .storage message => s!"Storage error: {message}"
  | .config problem => s!"Configuration error: {problem.text}"
  | .cancelled => "Operation context cancelled"
  | .io => "IO error"
  | .malformed problem => problem.message
  | .verification verdict => s!"Verification failed: signature error: {verdictText verdict}"
  | .other message => message

inductive Failure where
  | rejected (reason : Reason)
  | failed (fault : Fault)
  deriving DecidableEq

def Failure.message : Failure → String
  | .rejected reason => reason.text
  | .failed fault => fault.message

def Failure.reason? : Failure → Option Reason
  | .rejected reason => some reason
  | .failed _ => none

abbrev Check (α : Type) := Except Failure α

def Check.ofExcept {α : Type} : Except Fault α → Check α
  | .ok a => .ok a
  | .error fault => .error (.failed fault)

instance : MonadLift (Except Fault) (Except Failure) := ⟨Check.ofExcept⟩

def reject {α : Type} (kind : ReasonKind) (message : String) : Check α :=
  .error (.rejected ⟨kind, message⟩)

def fail {α : Type} (fault : Fault) : Check α := .error (.failed fault)

def require (holds : Bool) (kind : ReasonKind) (message : String) : Check Unit :=
  if holds then .ok () else reject kind message

end SignedLedger

import SignedLedger.Binary
import SignedLedger.Config.Basic
import SignedLedger.Config.Toml
import SignedLedger.Crypto.Curve
import SignedLedger.Crypto.Ed25519
import SignedLedger.Crypto.Sha2
import SignedLedger.Crypto.Sha256
import SignedLedger.Crypto.Sha512
import SignedLedger.Decimal.Arithmetic
import SignedLedger.Decimal.Basic
import SignedLedger.Decimal.Text
import SignedLedger.Failure
import SignedLedger.FreeList
import SignedLedger.Identity.AccountKeys
import SignedLedger.Identity.Address
import SignedLedger.Identity.Currency
import SignedLedger.Identity.Digest
import SignedLedger.Identity.Hint
import SignedLedger.Identity.Network
import SignedLedger.Identity.PublicKey
import SignedLedger.Limits
import SignedLedger.Main
import SignedLedger.Malformed
import SignedLedger.Operation.Basic
import SignedLedger.Operation.Candidate
import SignedLedger.Operation.Claim
import SignedLedger.Operation.Content
import SignedLedger.Operation.Declared
import SignedLedger.Operation.Did
import SignedLedger.Operation.Fact
import SignedLedger.Operation.Kind
import SignedLedger.Operation.NewAccount
import SignedLedger.Operation.Payment
import SignedLedger.Pipeline.Authorization
import SignedLedger.Pipeline.Consistency
import SignedLedger.Pipeline.Fee
import SignedLedger.Proofs.AccountAddresses
import SignedLedger.Proofs.Accounting
import SignedLedger.Proofs.Admission
import SignedLedger.Proofs.Aftermath
import SignedLedger.Proofs.Agreement
import SignedLedger.Proofs.Billing
import SignedLedger.Proofs.Binary
import SignedLedger.Proofs.Blocks
import SignedLedger.Proofs.Candidacy
import SignedLedger.Proofs.Check
import SignedLedger.Proofs.Conflicts
import SignedLedger.Proofs.Consent
import SignedLedger.Proofs.Conservation
import SignedLedger.Proofs.Decimal.Fold
import SignedLedger.Proofs.Decimal.Rounding
import SignedLedger.Proofs.Decimal.Sum
import SignedLedger.Proofs.Decimal.Text
import SignedLedger.Proofs.Decimal.Total
import SignedLedger.Proofs.Decimal.Units
import SignedLedger.Proofs.Dispatch
import SignedLedger.Proofs.Failure
import SignedLedger.Proofs.Faults
import SignedLedger.Proofs.FeeBounds
import SignedLedger.Proofs.Fingerprint
import SignedLedger.Proofs.HintText
import SignedLedger.Proofs.Identifiers
import SignedLedger.Proofs.Levies
import SignedLedger.Proofs.MergeOrder
import SignedLedger.Proofs.Merging
import SignedLedger.Proofs.Movements
import SignedLedger.Proofs.Operation.Amounts
import SignedLedger.Proofs.Operation.Claims
import SignedLedger.Proofs.Operation.Effects
import SignedLedger.Proofs.Operation.Failure
import SignedLedger.Proofs.Operation.Layout
import SignedLedger.Proofs.Operation.Movements
import SignedLedger.Proofs.Operation.Signs
import SignedLedger.Proofs.Operation.Totals
import SignedLedger.Proofs.Operation.Writes
import SignedLedger.Proofs.Overdraft
import SignedLedger.Proofs.Permanence
import SignedLedger.Proofs.Pipeline.Authorization
import SignedLedger.Proofs.Pipeline.Consistency
import SignedLedger.Proofs.Pipeline.Failure
import SignedLedger.Proofs.Pipeline.Fee
import SignedLedger.Proofs.Pipeline.Policy
import SignedLedger.Proofs.Sample
import SignedLedger.Proofs.Session.Answers
import SignedLedger.Proofs.Session.Block
import SignedLedger.Proofs.Session.Claims
import SignedLedger.Proofs.Session.Compatible
import SignedLedger.Proofs.Session.Execution
import SignedLedger.Proofs.Session.Log
import SignedLedger.Proofs.Session.Pool
import SignedLedger.Proofs.Session.Registry
import SignedLedger.Proofs.Session.Release
import SignedLedger.Proofs.Session.Reuse
import SignedLedger.Proofs.Session.Run
import SignedLedger.Proofs.Session.Served
import SignedLedger.Proofs.Session.Standing
import SignedLedger.Proofs.Sharing
import SignedLedger.Proofs.Signing
import SignedLedger.Proofs.State.Bytes
import SignedLedger.Proofs.State.Closing
import SignedLedger.Proofs.State.Genesis
import SignedLedger.Proofs.State.Key
import SignedLedger.Proofs.State.Merge
import SignedLedger.Proofs.State.Refusal
import SignedLedger.Proofs.State.Settled
import SignedLedger.Proofs.State.Slot
import SignedLedger.Proofs.State.Store
import SignedLedger.Proofs.State.Total
import SignedLedger.Proofs.State.Written
import SignedLedger.Proofs.StateKeys
import SignedLedger.Proofs.Table
import SignedLedger.Proofs.Text.Cut
import SignedLedger.Proofs.Text.Whole
import SignedLedger.Proofs.Threshold
import SignedLedger.Proofs.WellFormed
import SignedLedger.Scenario
import SignedLedger.Session.Cancellation
import SignedLedger.Session.Engine
import SignedLedger.Session.Ledger
import SignedLedger.Session.Metrics
import SignedLedger.Session.Processor
import SignedLedger.Session.Registry
import SignedLedger.State.Basic
import SignedLedger.State.Bytes
import SignedLedger.State.Document
import SignedLedger.State.Genesis
import SignedLedger.State.Key
import SignedLedger.State.Lookup
import SignedLedger.State.Merge
import SignedLedger.State.Reader
import SignedLedger.State.Value
import SignedLedger.Table
import SignedLedger.Text.Cut
import SignedLedger.Text.Hex
import SignedLedger.Text.Instant
import SignedLedger.Text.Invisible
import SignedLedger.Text.Json
import SignedLedger.Text.Quoted
import SignedLedger.Text.Utf8
import SignedLedger.Text.Whole

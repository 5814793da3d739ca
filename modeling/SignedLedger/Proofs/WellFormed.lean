import Mathlib.Logic.Relation
import SignedLedger.Proofs.Blocks

-- Well-formed ledgers. Every family of keys holds values of its own type that name
-- what their key names, no balance is negative, and contracts have no keys. Blocks keep
-- it so, whatever was asked of the sessions behind them.
namespace SignedLedger

-- What the value says of itself is what the slot says of it. Statuses, designs of
-- registries and candidates do not name themselves.
def Slot.Named : Slot → StateValue → Prop
  | .account a, .account held => held.address = a
  | .balance _ c, .balance amount => amount.currency = c
  | .currencyDesign c, .currencyDesign design => design.currency = c
  | .didData _ a, .didData data => data.address = a
  | .didDocument _ did, .didDocument document => document.did = did
  | _, _ => True

namespace Store

structure Shaped (store : Store) : Prop where
  matching : ∀ slot value, store.value? slot = some value → value.kind = slot.kind
  keyless : ∀ a value, store.value? (.contractAccount a) = some value →
    ∃ account, store.value? (.account a) = some (.account account) ∧ account.keys = none

structure WellFormed (store : Store) : Prop extends store.Shaped where
  named : ∀ slot value, store.value? slot = some value → slot.Named value
  nonneg : ∀ a c amount, store.value? (.balance a c) = some (.balance amount) →
    amount.value.isNegative = false

end Store

section Step
variable {store later : Store} {facts : List Fact} {fact : Fact} {slot : Slot} {value : StateValue}

-- A contract that was there before keeps its keyless account; a new one comes with it.
theorem Store.Carries.shaped (carries : store.Carries facts later) (shaped : store.Shaped) :
    later.Shaped where
  matching := by
    intro slot value found
    rcases carries.origin found with before | ⟨fact, _, writes⟩ | ⟨a, c, total, rfl, _, rfl⟩
    · exact shaped.matching slot value before
    · exact writes.kind_eq
    · rfl
  keyless := by
    have known {a : Address} {value : StateValue}
        (before : store.value? (.contractAccount a) = some value) :
        ∃ account, later.value? (.account a) = some (.account account) ∧ account.keys = none := by
      obtain ⟨account, held, keyless⟩ := shaped.keyless a value before
      exact ⟨account, carries.stays held trivial, keyless⟩
    intro a value found
    rcases carries.origin found with before | ⟨fact, listed, writes⟩ | ⟨_, _, _, same, _⟩
    · exact known before
    · cases writes with
      | contract opened absent =>
        exact ⟨_, carries.put _ listed _ _ (.keyless opened absent), rfl⟩
      | activation status _ => exact known (Store.contractStatus_stored.mp status)
    · cases same

theorem Fact.Writes.named (named : ∀ slot value, store.value? slot = some value → slot.Named value)
    (writes : fact.Writes store.reader slot value) : slot.Named value := by
  cases writes with
  | account _ _ => exact rfl
  | keyless _ _ => exact rfl
  | contract _ _ => trivial
  | design _ _ => trivial
  | activation _ _ => trivial
  | data _ _ => exact rfl
  | document _ _ => exact rfl
  | methods found _ _ =>
    have stored := named _ _ (Store.didDocument_stored.mp found)
    exact stored

theorem Store.Carries.wellFormed (carries : store.Carries facts later)
    (formed : store.WellFormed) : later.WellFormed where
  toShaped := carries.shaped formed.toShaped
  named := by
    intro slot value found
    rcases carries.origin found with before | ⟨fact, _, writes⟩ | ⟨a, c, total, rfl, _, rfl⟩
    · exact formed.named slot value before
    · exact writes.named formed.named
    · rfl
  nonneg := by
    intro a c amount found
    rcases carries.origin found with before | ⟨fact, _, writes⟩ | ⟨_, _, total, _, nonneg, same⟩
    · exact formed.nonneg a c amount before
    · exact absurd rfl writes.not_balance
    · cases same
      exact nonneg

end Step

-- Over any number of blocks. In particular no address is ever a contract and an account
-- with keys at once.
theorem blocks_keep_wellFormed {store later : Store} (formed : store.WellFormed)
    (path : Relation.ReflTransGen Store.Block store later) :
    later.WellFormed ∧ ∀ a value account, later.value? (.contractAccount a) = some value →
      later.value? (.account a) = some (.account account) → account.keys = none := by
  have kept : later.WellFormed := by
    induction path with
    | refl => exact formed
    | tail _ block ih =>
      obtain ⟨facts, carries⟩ := block.carries
      exact carries.wellFormed ih
  refine ⟨kept, fun a value account contract held => ?_⟩
  obtain ⟨other, found, keyless⟩ := kept.keyless a value contract
  rw [held] at found
  cases found
  exact keyless

namespace GenesisEntry
variable {entry : GenesisEntry} {a : Address} {value : StateValue}

theorem slots_kind (entry : GenesisEntry) :
    ∀ placed ∈ entry.slots, placed.2.kind = placed.1.kind := by
  cases entry <;> simp [slots, StateValue.kind, Slot.kind]

theorem slots_named (entry : GenesisEntry) : ∀ placed ∈ entry.slots, placed.1.Named placed.2 := by
  cases entry <;> simp [slots, Slot.Named, Account.keyless]

theorem slots_balance {c : Currency} {amount : Amount}
    (member : (.balance a c, .balance amount) ∈ entry.slots) : entry = .balance a amount := by
  cases entry with
  | balance b other =>
    cases List.mem_singleton.mp member
    rfl
  | _ => simp [slots] at member

theorem slots_contract (member : (.contractAccount a, value) ∈ entry.slots) :
    ∃ status, entry = .contract a status := by
  cases entry with
  | contract b status =>
    simp only [slots, List.mem_cons, Prod.mk.injEq, reduceCtorEq, false_and, false_or,
      Slot.contractAccount.injEq, List.not_mem_nil, or_false] at member
    exact ⟨status, by rw [member.1]⟩
  | _ => simp [slots] at member

theorem slots_account (member : (.account a, value) ∈ entry.slots) :
    (∃ account, entry = .account account ∧ account.address = a) ∨
      value = .account (Account.keyless a) := by
  cases entry with
  | account account =>
    cases List.mem_singleton.mp member
    exact .inl ⟨account, rfl, rfl⟩
  | contract b status =>
    simp only [slots, List.mem_cons, Prod.mk.injEq, reduceCtorEq, false_and, or_false,
      Slot.account.injEq, List.not_mem_nil] at member
    obtain ⟨rfl, rfl⟩ := member
    exact .inr rfl
  | _ => simp [slots] at member

end GenesisEntry

theorem Store.genesis_wellFormed {height : Height} {entries : List GenesisEntry}
    (nonneg : ∀ a amount, .balance a amount ∈ entries → amount.value.isNegative = false)
    (apart : ∀ account a status, .account account ∈ entries → .contract a status ∈ entries →
      account.address ≠ a) : (genesis height entries).WellFormed where
  matching := by
    intro slot value found
    obtain ⟨entry, _, member⟩ := genesis_origin found
    exact entry.slots_kind _ member
  keyless := by
    intro a value found
    obtain ⟨entry, listed, member⟩ := genesis_origin found
    obtain ⟨status, rfl⟩ := GenesisEntry.slots_contract member
    obtain ⟨other, held⟩ : ∃ other, (genesis height entries).value? (.account a) = some other :=
      genesis_holds listed List.mem_cons_self
    obtain ⟨second, among, there⟩ := genesis_origin held
    rcases GenesisEntry.slots_account there with ⟨account, rfl, same⟩ | rfl
    · exact absurd same (apart account a status among listed)
    · exact ⟨_, held, rfl⟩
  named := by
    intro slot value found
    obtain ⟨entry, _, member⟩ := genesis_origin found
    exact entry.slots_named _ member
  nonneg := by
    intro a c amount found
    obtain ⟨entry, listed, member⟩ := genesis_origin found
    rw [GenesisEntry.slots_balance member] at listed
    exact nonneg a amount listed

theorem enrolLedger_wellFormed : enrolLedger.WellFormed := by
  refine Store.genesis_wellFormed ?_ ?_
  · intro a amount listed
    simp [enrolEntries, Sample.coins, Sample.held] at listed
  · intro account a status listed contract
    simp only [enrolEntries, Sample.coins, Sample.held, List.mem_cons, reduceCtorEq,
      GenesisEntry.account.injEq, GenesisEntry.contract.injEq, List.not_mem_nil, or_false,
      false_or] at listed contract
    obtain ⟨rfl, rfl⟩ := contract
    rcases listed with rfl | rfl
    · decide
    · decide

theorem enrolment_wellFormed :
    enrolLedger.WellFormed ∧ ∃ later, enrolLedger.Block later ∧
      later.value? (.didDocument Sample.carol aliceDid) =
        some (.didDocument (enrolFact.document aliceDid)) ∧ later.WellFormed := by
  obtain ⟨later, block, written, _⟩ := enrolment_block
  refine ⟨enrolLedger_wellFormed, later, block, written, ?_⟩
  exact (blocks_keep_wellFormed enrolLedger_wellFormed (.single block)).1

end SignedLedger

import SignedLedger.Proofs.Check
import SignedLedger.Proofs.State.Key
import SignedLedger.State.Reader

-- The eight families of keys as data. A slot names a place of the ledger, and no two
-- slots have the same key: what stands behind the last colon tells the family, and
-- what stands before it tells the rest.
namespace SignedLedger
open Check

inductive Slot where
  | account (address : Address)
  | balance (address : Address) (currency : Currency)
  | currencyDesign (currency : Currency)
  | contractAccount (address : Address)
  | didDesign (contract : Address)
  | didData (contract address : Address)
  | didDocument (contract : Address) (did : String)
  | suffrageCandidates
  deriving DecidableEq

theorem Text.colon_toList : ":".toList = [':'] := by decide

theorem Address.colon_not_mem (a : Address) : ':' ∉ a.text.toList := by
  intro member
  have plain := List.all_eq_true.mp a.plain ':' member
  exact absurd plain (by decide)

theorem Address.scoped_inj {c d : Address} {name name' : String}
    (same : c.text ++ ":" ++ name = d.text ++ ":" ++ name') : c = d ∧ name = name' := by
  have lists := congrArg String.toList same
  simp only [String.toList_append, Text.colon_toList, List.append_assoc] at lists
  obtain ⟨contract, rest⟩ := Text.cut_unique c.colon_not_mem d.colon_not_mem lists
  exact ⟨Address.ext (String.toList_injective contract), String.toList_injective rest⟩

theorem DidDesign.didOf_inj {design : DidDesign} {a b : Address}
    (same : design.didOf a = design.didOf b) : a = b := by
  have lists := congrArg String.toList same
  simp only [didOf, String.toList_append] at lists
  exact Address.ext (String.toList_injective (List.append_cancel_left lists))

namespace Slot

def key : Slot → String
  | .account a => StateKey.account a
  | .balance a c => StateKey.balance a c
  | .currencyDesign c => StateKey.currencyDesign c
  | .contractAccount a => StateKey.contractAccount a
  | .didDesign c => StateKey.didDesign c
  | .didData c a => StateKey.didData c a
  | .didDocument c did => StateKey.didDocument c did
  | .suffrageCandidates => StateKey.suffrageCandidates

def kind : Slot → ValueKind
  | .account _ => .account
  | .balance _ _ => .balance
  | .currencyDesign _ => .currencyDesign
  | .contractAccount _ => .contractAccount
  | .didDesign _ => .didDesign
  | .didData _ _ => .didData
  | .didDocument _ _ => .didDocument
  | .suffrageCandidates => .suffrageCandidates

def family : Slot → String
  | .account _ => "account"
  | .balance _ _ => "balance"
  | .currencyDesign _ => "currencydesign"
  | .contractAccount _ => "contractaccount"
  | .didDesign _ => "diddesign"
  | .didData _ _ => "diddata"
  | .didDocument _ _ => "diddocument"
  | .suffrageCandidates => "candidates"

def owner : Slot → String
  | .account a => a.text
  | .balance a c => a.text ++ "-" ++ c.text
  | .currencyDesign c => c.text
  | .contractAccount a => a.text
  | .didDesign c => c.text
  | .didData c a => c.text ++ ":" ++ a.text
  | .didDocument c did => c.text ++ ":" ++ did
  | .suffrageCandidates => "suffrage"

theorem key_eq (slot : Slot) : slot.key = slot.owner ++ (":" ++ slot.family) := by
  cases slot with
  | account a => simp [key, owner, family, StateKey.account]
  | balance a c => simp [key, owner, family, StateKey.balance]
  | currencyDesign c => simp [key, owner, family, StateKey.currencyDesign]
  | contractAccount a => simp [key, owner, family, StateKey.contractAccount]
  | didDesign c => simp [key, owner, family, StateKey.didDesign]
  | didData c a => simp [key, owner, family, StateKey.didData]
  | didDocument c did => simp [key, owner, family, StateKey.didDocument]
  | suffrageCandidates => simp [key, owner, family, StateKey.suffrageCandidates]

theorem colon_not_mem_family (slot : Slot) : ':' ∉ slot.family.toList := by
  cases slot <;> simp only [family] <;> decide

theorem key_parts {one other : Slot} (same : one.key = other.key) :
    one.owner = other.owner ∧ one.family = other.family := by
  have cut (slot : Slot) : Text.cutLast? [':'] slot.key.toList =
      some (slot.owner.toList, slot.family.toList) := by
    rw [key_eq, String.toList_append, String.toList_append, Text.colon_toList]
    exact Text.cutLast_append _ (colon_not_mem_family slot)
  have both := cut one
  rw [same, cut other] at both
  obtain ⟨owner, family⟩ := Prod.mk.inj (Option.some.inj both)
  exact ⟨String.toList_injective owner.symm, String.toList_injective family.symm⟩

theorem key_injective {one other : Slot} (same : one.key = other.key) : one = other := by
  obtain ⟨owner, family⟩ := key_parts same
  cases one with
  | account a =>
    cases other with
    | account b => rw [Address.ext owner]
    | _ => simp [Slot.family] at family
  | balance a c =>
    cases other with
    | balance b d =>
      have read := congrArg StateKey.readBalance? same
      simp only [key, StateKey.readBalance_balance] at read
      cases read
      rfl
    | _ => simp [Slot.family] at family
  | currencyDesign c =>
    cases other with
    | currencyDesign d => rw [Currency.ext owner]
    | _ => simp [Slot.family] at family
  | contractAccount a =>
    cases other with
    | contractAccount b => rw [Address.ext owner]
    | _ => simp [Slot.family] at family
  | didDesign c =>
    cases other with
    | didDesign d => rw [Address.ext owner]
    | _ => simp [Slot.family] at family
  | didData c a =>
    cases other with
    | didData d b =>
      obtain ⟨contract, address⟩ := Address.scoped_inj owner
      rw [contract, Address.ext address]
    | _ => simp [Slot.family] at family
  | didDocument c did =>
    cases other with
    | didDocument d did' =>
      obtain ⟨contract, named⟩ := Address.scoped_inj owner
      rw [contract, named]
    | _ => simp [Slot.family] at family
  | suffrageCandidates =>
    cases other with
    | suffrageCandidates => rfl
    | _ => simp [Slot.family] at family

theorem isBalance_key (slot : Slot) : StateKey.isBalance slot.key = decide (slot.kind = .balance) := by
  cases slot with
  | account a => exact StateKey.isBalance_account a
  | balance a c => exact StateKey.isBalance_balance a c
  | currencyDesign c => exact StateKey.isBalance_ending (by decide) (by decide)
  | contractAccount a => exact StateKey.isBalance_contractAccount a
  | didDesign c => exact StateKey.isBalance_didDesign c
  | didData c a => exact StateKey.isBalance_didData c a
  | didDocument c did => exact StateKey.isBalance_didDocument c did
  | suffrageCandidates => decide

end Slot

namespace Store

def value? (store : Store) (slot : Slot) : Option StateValue :=
  (store.find? slot.key).map State.value

variable {store : Store}

theorem read_stored {α : Type} (slot : Slot) {expected : ValueKind}
    {extract : StateValue → Option α} {stored : α → StateValue}
    (exact : ∀ value a, extract value = some a ↔ value = stored a) {a : α} :
    Lookup.read store.reader slot.key expected extract = .ok (some a) ↔
      store.value? slot = some (stored a) := by
  unfold Lookup.read Lookup.typed value? reader
  cases store.find? slot.key with
  | none => simp [bind, Except.bind]
  | some state =>
    simp only [bind, Except.bind, Option.map_some, Option.some.injEq, ← exact]
    cases extract state.value with
    | none => simp
    | some b => simp

theorem read_missing {α : Type} (slot : Slot) {expected : ValueKind}
    {extract : StateValue → Option α} :
    Lookup.read store.reader slot.key expected extract = .ok none ↔ store.value? slot = none := by
  unfold Lookup.read Lookup.typed value? reader
  cases store.find? slot.key with
  | none => simp [bind, Except.bind]
  | some state =>
    simp only [bind, Except.bind, Option.map_some, reduceCtorEq, iff_false]
    cases extract state.value with
    | none => simp
    | some b => simp

theorem reader_missing (slot : Slot) :
    store.reader slot.key = .ok none ↔ store.value? slot = none := by
  simp [reader, value?]

theorem contractStatus_stored {a : Address} {status : ContractStatus} :
    Lookup.contractStatus store.reader a = .ok (some status) ↔
      store.value? (.contractAccount a) = some (.contractAccount status) :=
  read_stored (.contractAccount a) fun value _ => by cases value <;> simp

theorem didDesign_stored {c : Address} {design : DidDesign} :
    Lookup.didDesign store.reader c = .ok (some design) ↔
      store.value? (.didDesign c) = some (.didDesign design) :=
  read_stored (.didDesign c) fun value _ => by cases value <;> simp

theorem didData_stored {c a : Address} {data : DidData} :
    Lookup.didData store.reader c a = .ok (some data) ↔
      store.value? (.didData c a) = some (.didData data) :=
  read_stored (.didData c a) fun value _ => by cases value <;> simp

theorem didDocument_stored {c : Address} {did : String} {document : DidDocument} :
    Lookup.didDocument store.reader c did = .ok (some document) ↔
      store.value? (.didDocument c did) = some (.didDocument document) :=
  read_stored (.didDocument c did) fun value _ => by cases value <;> simp

end Store
end SignedLedger

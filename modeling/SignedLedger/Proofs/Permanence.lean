import SignedLedger.Proofs.Identifiers

-- Records that last. Accounts, designs and holders' data are written once; contracts keep
-- their owner and handlers and are never put to rest; documents keep their name, their
-- controller and their standing. What makes a fresh write miss the records at hand is that
-- contracts come with accounts and documents with data.
namespace SignedLedger

-- What a later store still has of an earlier one. Where things are written once the state
-- as a whole stays, with the height and the operations that it was written by.
structure Store.Keeps (store later : Store) : Prop where
  once : ∀ (slot : Slot) state, slot.Once → store.find? slot.key = some state →
    later.find? slot.key = some state
  contracts : ∀ a status, store.value? (.contractAccount a) = some (.contractAccount status) →
    ∃ status', later.value? (.contractAccount a) = some (.contractAccount status') ∧
      status'.owner = status.owner ∧ status'.handlers = status.handlers ∧
      (status.isActive = true → status'.isActive = true)
  documents : ∀ c did document, store.value? (.didDocument c did) = some (.didDocument document) →
    ∃ document', later.value? (.didDocument c did) = some (.didDocument document') ∧
      document'.did = document.did ∧ document'.controller = document.controller ∧
      document'.active = document.active

namespace Store
variable {store middle later : Store}

theorem Keeps.refl (store : Store) : store.Keeps store :=
  ⟨fun _ _ _ found => found, fun _ status found => ⟨status, found, rfl, rfl, id⟩,
    fun _ _ document found => ⟨document, found, rfl, rfl, rfl⟩⟩

theorem Keeps.trans (first : store.Keeps middle) (second : middle.Keeps later) :
    store.Keeps later where
  once slot state once found := second.once slot state once (first.once slot state once found)
  contracts := by
    intro a status found
    obtain ⟨between, held, owner, handlers, active⟩ := first.contracts a status found
    obtain ⟨last, stored, owner', handlers', active'⟩ := second.contracts a between held
    exact ⟨last, stored, owner'.trans owner, handlers'.trans handlers, fun on => active' (active on)⟩
  documents := by
    intro c did document found
    obtain ⟨between, held, named, controller, active⟩ := first.documents c did document found
    obtain ⟨last, stored, named', controller', active'⟩ := second.documents c did between held
    exact ⟨last, stored, named'.trans named, controller'.trans controller, active'.trans active⟩

-- Whoever writes to such a place has found nothing there.
theorem Block.once_stays (block : store.Block later) {slot : Slot} {state : State}
    (once : slot.Once) (found : store.find? slot.key = some state) :
    later.find? slot.key = some state := by
  obtain ⟨path, height, proposal, asked, same, applied⟩ := block
  have executed := Desk.accepted_executed path height proposal asked
  rcases applyMerges_origin applied store slot.key with
    kept | ⟨other, _, set | ⟨_, _, _, named, _⟩⟩
  · exact kept.trans found
  · obtain ⟨fact, _, writes⟩ :=
      writes_of_set (fun entry member => executed entry (same.mem_iff.mp member)) set
    have absent := writes.absent_of_once once
    rw [value?, found] at absent
    cases absent
  · have balanced := StateKey.isBalance_of_read named
    rw [Slot.isBalance_key] at balanced
    have balance : slot.kind = .balance := of_decide_eq_true balanced
    cases slot with
    | balance a c => exact once.elim
    | _ => cases balance

theorem Block.keeps (block : store.Block later) (shaped : store.Shaped) (matched : store.Matched) :
    store.Keeps later := by
  obtain ⟨facts, carries⟩ := block.carries
  exact ⟨fun _ _ once found => block.once_stays once found,
    fun _ _ found => carries.contract_stays shaped found,
    fun _ _ _ found => carries.document_stays matched found⟩

theorem Block.matched (block : store.Block later) (shaped : store.Shaped)
    (matched : store.Matched) : later.Shaped ∧ later.Matched := by
  obtain ⟨facts, carries⟩ := block.carries
  exact ⟨carries.shaped shaped, carries.matched shaped matched⟩

theorem blocks_matched (shaped : store.Shaped) (matched : store.Matched)
    (path : Relation.ReflTransGen Block store later) : later.Shaped ∧ later.Matched := by
  induction path with
  | refl => exact ⟨shaped, matched⟩
  | tail _ block ih => exact block.matched ih.1 ih.2

end Store

theorem blocks_keep_records {store middle later : Store} (shaped : store.Shaped)
    (matched : store.Matched) (path : Relation.ReflTransGen Store.Block store middle)
    (onward : Relation.ReflTransGen Store.Block middle later) : middle.Keeps later := by
  obtain ⟨shaped', matched'⟩ := Store.blocks_matched shaped matched path
  induction onward with
  | refl => exact .refl middle
  | tail before block ih =>
    obtain ⟨shaped'', matched''⟩ := Store.blocks_matched shaped' matched' before
    exact ih.trans (block.keeps shaped'' matched'')

theorem enrolment_keeps_records :
    enrolLedger.Shaped ∧ enrolLedger.Matched ∧ ∃ later, enrolLedger.Block later ∧
      later.value? (.didDocument Sample.carol bobDid) =
        some (.didDocument { bobDocument with authentication := bobMethods }) ∧
      (∃ status, later.value? (.contractAccount Sample.carol) = some (.contractAccount status) ∧
        status.owner = Sample.bob ∧ status.isActive = true) ∧
      later.find? (Slot.didDesign Sample.carol).key =
        enrolLedger.find? (Slot.didDesign Sample.carol).key := by
  obtain ⟨later, block, _, replaced⟩ := enrolment_block
  have shaped := enrolLedger_wellFormed.toShaped
  have matched := enrolLedger_consistent.matched
  obtain ⟨design, contract, _, _⟩ := enrolLedger_stored
  have keeps := blocks_keep_records shaped matched .refl (.single block)
  obtain ⟨state, found, _⟩ := Option.map_eq_some_iff.mp design
  obtain ⟨status, held, owner, _, active⟩ := keeps.contracts _ _ contract
  exact ⟨shaped, matched, later, block, replaced, ⟨status, held, owner, active rfl⟩,
    (keeps.once (.didDesign Sample.carol) _ trivial found).trans found.symm⟩

end SignedLedger

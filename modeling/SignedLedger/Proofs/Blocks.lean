import SignedLedger.Proofs.Sample
import SignedLedger.Proofs.Session.Served
import SignedLedger.Proofs.State.Genesis

-- Blocks over a store: the operations that one session accepts, written together. What
-- a block does to the store is told by the facts that it carried out, without a word
-- about sessions and mergers.
namespace SignedLedger
open Check

-- Any settings, any engine, and any order of the accepted operations.
inductive Store.Block (store : Store) : Store → Prop where
  | write {settings : Settings} {e : Engine} (path : Engine.Reachable settings e)
      (height : Height) (proposal : Option Proposal) {requests : List Request}
      (asked : ∀ request ∈ requests, request.Over store.reader)
      {order : List (Operation × List MergeValue)}
      (same : order.Perm ((Desk.checkout e height proposal).accepted requests))
      {written : Height} {states : List State}
      (applied : applyMerges written (batchesOf order) store.reader = .ok states) :
      Block store (store.extend states)

structure Store.Carries (store : Store) (facts : List Fact) (later : Store) : Prop where
  valid : ∀ fact ∈ facts, ∃ limits, fact.validate limits = .ok ()
  put : ∀ fact ∈ facts, ∀ slot value, fact.Writes store.reader slot value →
    later.value? slot = some value
  kept : ∀ slot : Slot, slot.kind ≠ .balance → later.value? slot = store.value? slot ∨
    ∃ fact ∈ facts, ∃ value, fact.Writes store.reader slot value
  balance : ∀ a c, later.value? (.balance a c) = store.value? (.balance a c) ∨
    ∃ total : Decimal, total.isNegative = false ∧
      later.value? (.balance a c) = some (.balance ⟨c, total⟩)

def Slot.Once : Slot → Prop
  | .account _ | .currencyDesign _ | .didDesign _ | .didData _ _ | .suffrageCandidates => True
  | _ => False

theorem Fact.Writes.absent_of_once {store : Store} {fact : Fact} {slot : Slot} {value : StateValue}
    (writes : fact.Writes store.reader slot value) (once : slot.Once) :
    store.value? slot = none := by
  cases writes with
  | account _ absent => exact (Store.reader_missing (.account _)).mp absent
  | keyless _ absent => exact (Store.reader_missing (.account _)).mp absent
  | design _ absent => exact (Store.read_missing (.didDesign _)).mp absent
  | data _ absent => exact (Store.read_missing (.didData _ _)).mp absent
  | _ => exact once.elim

namespace Store.Carries
variable {store later : Store} {facts : List Fact} {slot : Slot} {value : StateValue}

theorem origin (carries : store.Carries facts later) (found : later.value? slot = some value) :
    store.value? slot = some value ∨ (∃ fact ∈ facts, fact.Writes store.reader slot value) ∨
      ∃ a c total, slot = .balance a c ∧ Decimal.isNegative total = false ∧
        value = .balance ⟨c, total⟩ := by
  by_cases balance : slot.kind = .balance
  · cases slot with
    | balance a c =>
      rcases carries.balance a c with same | ⟨total, nonneg, written⟩
      · exact .inl (same.symm.trans found)
      · rw [written] at found
        cases found
        exact .inr (.inr ⟨a, c, total, rfl, nonneg, rfl⟩)
    | _ => cases balance
  · rcases carries.kept slot balance with same | ⟨fact, listed, other, writes⟩
    · exact .inl (same.symm.trans found)
    · have put := carries.put fact listed slot other writes
      rw [found] at put
      cases put
      exact .inr (.inl ⟨fact, listed, writes⟩)

theorem stays (carries : store.Carries facts later) (found : store.value? slot = some value)
    (once : slot.Once) : later.value? slot = some value := by
  have apart : slot.kind ≠ .balance := by
    cases slot with
    | balance a c => exact once.elim
    | _ => nofun
  rcases carries.kept slot apart with same | ⟨fact, _, other, writes⟩
  · exact same.trans found
  · rw [writes.absent_of_once once] at found
    cases found

end Store.Carries

section Applied
variable {settings : Settings} {height written : Height} {proposal : Option Proposal}
  {store : Store} {entries : List (Operation × List MergeValue)} {states : List State}

def setsAny (entry : Operation × List MergeValue) : Bool :=
  entry.2.any fun value => value.kind = .set

def carriedOut (entries : List (Operation × List MergeValue)) : List Fact :=
  (entries.filter setsAny).map fun entry => entry.1.fact

theorem mem_batchesOf {value : MergeValue} :
    value ∈ (batchesOf entries).flatMap Prod.snd ↔ ∃ entry ∈ entries, value ∈ entry.2 := by
  unfold batchesOf
  rw [List.flatMap_map, List.mem_flatMap]

theorem setIn_of_sets {entry : Operation × List MergeValue}
    (executed : ∃ processor, entry.1.Executed settings height proposal store.reader processor entry.2)
    (some : setsAny entry = true) : entry.1.fact.SetIn store.reader entry.2 := by
  obtain ⟨processor, executed⟩ := executed
  rcases executed.sets with none | sets
  · obtain ⟨value, member, set⟩ := List.any_eq_true.mp some
    rw [MergeValue.set_of_kind (of_decide_eq_true set)] at member
    exact absurd member (none _ _)
  · exact sets

theorem writes_of_set (executed : ∀ entry ∈ entries, ∃ processor,
      entry.1.Executed settings height proposal store.reader processor entry.2)
    {slot : Slot} {value : StateValue}
    (set : .set slot.key value ∈ (batchesOf entries).flatMap Prod.snd) :
    ∃ fact ∈ carriedOut entries, fact.Writes store.reader slot value := by
  obtain ⟨entry, listed, member⟩ := mem_batchesOf.mp set
  obtain ⟨_, done⟩ := executed entry listed
  obtain ⟨other, same, writes⟩ := done.writes member
  rw [Slot.key_injective same] at writes
  have some : setsAny entry = true := List.any_eq_true.mpr ⟨_, member, rfl⟩
  exact ⟨_, List.mem_map.mpr ⟨entry, List.mem_filter.mpr ⟨listed, some⟩, rfl⟩, writes⟩

theorem applyMerges_carries (executed : ∀ entry ∈ entries, ∃ processor,
      entry.1.Executed settings height proposal store.reader processor entry.2)
    (applied : applyMerges written (batchesOf entries) store.reader = .ok states) :
    store.Carries (carriedOut entries) (store.extend states) where
  valid := by
    intro fact listed
    obtain ⟨entry, held, rfl⟩ := List.mem_map.mp listed
    obtain ⟨_, done⟩ := executed entry (List.mem_filter.mp held).1
    exact ⟨_, done.valid⟩
  put := by
    intro fact listed slot value writes
    obtain ⟨entry, held, rfl⟩ := List.mem_map.mp listed
    obtain ⟨inside, some⟩ := List.mem_filter.mp held
    have member := (setIn_of_sets (executed entry inside) some _ _).mpr ⟨slot, rfl, writes⟩
    obtain ⟨state, found, agreed⟩ :=
      applyMerges_set applied store (mem_batchesOf.mpr ⟨entry, inside, member⟩)
    rw [Store.value?, found, Option.map_some, writes.plain.eq_of_agrees agreed]
  kept := by
    intro slot apart
    rcases applyMerges_origin applied store slot.key with
      same | ⟨state, _, set | ⟨_, _, _, named, _⟩⟩
    · exact .inl (congrArg (Option.map State.value) same)
    · obtain ⟨fact, listed, writes⟩ := writes_of_set executed set
      exact .inr ⟨fact, listed, _, writes⟩
    · have balanced := StateKey.isBalance_of_read named
      rw [Slot.isBalance_key] at balanced
      exact absurd (of_decide_eq_true balanced) apart
  balance := by
    intro a c
    rcases applyMerges_origin applied store (Slot.balance a c).key with
      same | ⟨state, found, set | ⟨_, _, total, named, nonneg, value⟩⟩
    · exact .inl (congrArg (Option.map State.value) same)
    · obtain ⟨fact, _, writes⟩ := writes_of_set executed set
      exact absurd rfl writes.not_balance
    · rw [Slot.key, StateKey.readBalance_balance] at named
      cases named
      refine .inr ⟨total, nonneg, ?_⟩
      rw [Store.value?, found, Option.map_some, value]

end Applied

theorem Store.Block.carries {store later : Store} (block : store.Block later) :
    ∃ facts, store.Carries facts later := by
  obtain ⟨path, height, proposal, asked, same, applied⟩ := block
  have executed := Desk.accepted_executed path height proposal asked
  exact ⟨_, applyMerges_carries (fun entry member => executed entry (same.mem_iff.mp member)) applied⟩

def aliceDid : String := "did:ledger:alice01"

def bobDid : String := "did:ledger:bob01"

def bobDocument : DidDocument := ⟨bobDid, Sample.bob, true, [⟨"did:ledger:bob01#old", Sample.strange⟩]⟩

def bobMethods : List VerificationMethod := [⟨"did:ledger:bob01#new", Sample.key⟩]

def enrolEntries : List GenesisEntry :=
  [Sample.coins .free, Sample.held Sample.alice Sample.key, Sample.held Sample.bob Sample.key,
    .contract Sample.carol ⟨Sample.bob, true, []⟩, .didDesign Sample.carol ⟨"ledger"⟩,
    .did Sample.carol ⟨Sample.bob, bobDid⟩ bobDocument]

def enrolLedger : Store := Sample.store enrolEntries

def enrolFact : CreateDid := ⟨[1], Sample.alice, Sample.carol, Sample.key, Sample.coin⟩

def enrolling : Operation := Sample.signed .createDid (.createDid enrolFact) Extensions.none

def replacing : Operation :=
  Sample.signed .updateDocument
    (.updateDocument ⟨[1], Sample.bob, Sample.carol, bobDid, bobMethods, Sample.coin⟩) Extensions.none

def enrolRequests : List Request :=
  [.enter Context.active enrolling enrolLedger.reader,
    .enter Context.active replacing enrolLedger.reader,
    .process Context.active enrolling enrolLedger.reader,
    .process Context.active replacing enrolLedger.reader]

noncomputable def enrolled : List (Operation × List MergeValue) :=
  (Desk.checkout Sample.engine ⟨2⟩ none).accepted enrolRequests

theorem enrolRequests_over : ∀ request ∈ enrolRequests, request.Over enrolLedger.reader := by
  simp only [enrolRequests, List.mem_cons, List.not_mem_nil, or_false, forall_eq_or_imp, forall_eq]
  exact ⟨⟨rfl, rfl⟩, ⟨rfl, rfl⟩, ⟨rfl, rfl⟩, ⟨rfl, rfl⟩⟩

set_option maxRecDepth 100000 in
theorem enrolled_run :
    enrolled.map Prod.fst = [enrolling, replacing] ∧
      (applyMerges ⟨2⟩ (batchesOf enrolled) enrolLedger.reader).map (fun states =>
        let later := enrolLedger.extend states
        (later.value? (.didDocument Sample.carol aliceDid),
          later.value? (.didDocument Sample.carol bobDid))) =
      .ok (some (.didDocument (enrolFact.document aliceDid)),
        some (.didDocument { bobDocument with authentication := bobMethods })) := by
  decide +kernel

theorem enrolment_block : ∃ later, enrolLedger.Block later ∧
    later.value? (.didDocument Sample.carol aliceDid) =
      some (.didDocument (enrolFact.document aliceDid)) ∧
    later.value? (.didDocument Sample.carol bobDid) =
      some (.didDocument { bobDocument with authentication := bobMethods }) := by
  have run := enrolled_run.2
  cases applied : applyMerges ⟨2⟩ (batchesOf enrolled) enrolLedger.reader with
  | error fault =>
    rw [applied] at run
    cases run
  | ok states =>
    rw [applied] at run
    obtain ⟨alice, bob⟩ := Prod.mk.inj (Except.ok.inj run)
    have path : Engine.Reachable Sample.settings Sample.engine := .new 1 1
    exact ⟨_, .write path ⟨2⟩ none enrolRequests_over (.refl _) applied, alice, bob⟩

end SignedLedger

import Mathlib.Data.List.Pairwise
import SignedLedger.Proofs.Identifiers
import SignedLedger.Proofs.Session.Registry
import SignedLedger.Proofs.State.Refusal

-- Claims keep writes apart. No operation claims the keys that it writes; but whoever
-- could write under one key makes a common claim, or finds at its admission what the
-- other one cannot have found.
namespace SignedLedger
open Check

namespace ClaimSet

theorem mem_place {claim other : Claim} {claims : List Claim} :
    other ∈ place claim claims ↔ other = claim ∨ other ∈ claims := by
  induction claims with
  | nil => simp [place]
  | cons first rest ih =>
    unfold place
    split
    · exact List.mem_cons
    · rw [List.mem_cons, ih, List.mem_cons]
      exact or_left_comm

theorem mem_ofList {type : ClaimType} {key : String} {listed : List (ClaimType × String)} :
    ⟨type, key⟩ ∈ (ofList listed).claims ↔ (type, key) ∈ listed := by
  have grown (set : ClaimSet) : (⟨type, key⟩ : Claim) ∈
      (listed.foldl (fun set claim => set.insert claim.1 claim.2) set).claims ↔
        ⟨type, key⟩ ∈ set.claims ∨ (type, key) ∈ listed := by
    induction listed generalizing set with
    | nil => simp
    | cons first rest ih =>
      obtain ⟨type', key'⟩ := first
      rw [List.foldl_cons, ih, insert, mem_place, List.mem_cons, Claim.mk.injEq, Prod.mk.injEq]
      exact or_assoc.trans or_left_comm
  unfold ofList
  rw [grown]
  simp [empty]

end ClaimSet

-- Every document at the identifier of an account comes with data of that account.
def Reader.Paired (reader : Reader) : Prop :=
  ∀ c a design document, Lookup.didDesign reader c = .ok (some design) →
    Lookup.didDocument reader c (design.didOf a) = .ok (some document) →
    ∃ data, Lookup.didData reader c a = .ok (some data)

theorem checkOpenings_distinct {limits : Limits} {sender : Address} {seen : List Address}
    {openings : List Opening} (checked : checkOpenings limits sender seen openings = .ok ()) :
    (∀ opening ∈ openings, opening.address ∉ seen) ∧
      openings.Pairwise fun one other => one.address ≠ other.address := by
  induction openings generalizing seen with
  | nil => simp
  | cons opening rest ih =>
    unfold checkOpenings at checked
    simp only [bind_ok, require_ok, Bool.not_eq_true', List.contains_eq_mem,
      decide_eq_false_iff_not] at checked
    obtain ⟨_, _, _, _, _, _, _, fresh, later⟩ := checked
    obtain ⟨apart, distinct⟩ := ih later
    refine ⟨fun other member => ?_, List.pairwise_cons.mpr ⟨fun other member same => ?_, distinct⟩⟩
    · rcases List.mem_cons.mp member with rfl | within
      · exact fresh
      · exact fun old => apart other within (List.mem_cons_of_mem _ old)
    · exact apart other member (same ▸ List.mem_cons_self)

theorem CreateAccount.validate_distinct {f : CreateAccount} {limits : Limits}
    (valid : f.validate limits = .ok ()) :
    f.openings.Pairwise fun one other => one.address ≠ other.address := by
  unfold validate at valid
  simp only [bind_ok] at valid
  obtain ⟨_, _, _, _, checked⟩ := valid
  exact (checkOpenings_distinct checked).2

def Fact.Claims (fact : Fact) (claim : Claim) : Prop :=
  ∃ set, fact.claims? = some set ∧ claim ∈ set.claims

-- The claim of everybody who writes to a slot. Documents are written under two claims.
def Slot.claim? : Slot → Option Claim
  | .account a => some ⟨.newAccount, a.text⟩
  | .contractAccount a => some ⟨.contractAccount, a.text⟩
  | .didDesign c => some ⟨.contractAccount, c.text⟩
  | .didData c a => some ⟨.didSubject, c.text ++ ":" ++ a.text⟩
  | _ => none

namespace Fact.Writes
variable {reader : Reader} {one other fact : Fact} {slot slot' : Slot} {value value' : StateValue}

theorem value_unique {limits : Limits} (valid : fact.validate limits = .ok ())
    (writes : fact.Writes reader slot value) (again : fact.Writes reader slot' value')
    (same : slot' = slot) : value = value' := by
  -- Two writes to one slot are of one sort. The items of an account creation name distinct
  -- accounts, and what any other write depends on was read in one and the same place.
  cases writes with
  | account listed _ =>
    cases again with
    | account listed' _ =>
      have distinct := CreateAccount.validate_distinct valid
      have symm : Std.Symm fun one other : Opening => one.address ≠ other.address :=
        ⟨fun _ _ apart => apart.symm⟩
      by_contra apart
      refine distinct.forall listed listed' (fun equal => apart ?_) (Slot.account.inj same).symm
      rw [equal]
  | keyless _ _ =>
    cases again with
    | keyless _ _ => rw [Slot.account.inj same]
    | contract _ _ => cases same
  | contract _ _ =>
    cases again with
    | keyless _ _ => cases same
    | contract _ _ => rfl
  | design _ _ =>
    cases again with
    | design _ _ => rfl
    | activation _ _ => cases same
  | activation found _ =>
    cases again with
    | design _ _ => cases same
    | activation found' _ =>
      rw [found] at found'
      cases found'
      rfl
  | data found _ =>
    cases again with
    | data found' _ =>
      rw [found] at found'
      cases found'
      rfl
    | document _ _ => cases same
  | document found _ =>
    cases again with
    | data _ _ => cases same
    | document found' _ =>
      rw [found] at found'
      cases found'
      rfl
  | methods found _ _ =>
    cases again with
    | methods found' _ _ =>
      rw [found] at found'
      cases found'
      rfl

theorem claims {claim : Claim} (writes : fact.Writes reader slot value)
    (named : slot.claim? = some claim) : fact.Claims claim := by
  cases writes with
  | @account f opening listed _ =>
    cases named
    refine ⟨_, rfl, ClaimSet.mem_ofList.mpr (List.mem_cons_of_mem _ ?_)⟩
    exact List.mem_map.mpr ⟨_, List.mem_map_of_mem listed, rfl⟩
  | @keyless f opening listed _ =>
    cases named
    refine ⟨_, rfl, ClaimSet.mem_ofList.mpr (List.mem_cons_of_mem _ ?_)⟩
    exact List.mem_flatMap.mpr ⟨_, List.mem_map_of_mem listed, List.mem_cons_self⟩
  | @contract f opening listed _ =>
    cases named
    refine ⟨_, rfl, ClaimSet.mem_ofList.mpr (List.mem_cons_of_mem _ ?_)⟩
    exact List.mem_flatMap.mpr
      ⟨_, List.mem_map_of_mem listed, List.mem_cons_of_mem _ List.mem_cons_self⟩
  | design _ _ =>
    cases named
    exact ⟨_, rfl, ClaimSet.mem_ofList.mpr List.mem_cons_self⟩
  | activation _ _ =>
    cases named
    exact ⟨_, rfl, ClaimSet.mem_ofList.mpr List.mem_cons_self⟩
  | data _ _ =>
    cases named
    exact ⟨_, rfl, ClaimSet.mem_ofList.mpr List.mem_cons_self⟩
  | document _ _ => cases named
  | methods _ _ _ => cases named

theorem document_parts {c : Address} {did : String}
    (writes : fact.Writes reader (.didDocument c did) value) :
    (∃ a design, fact.Claims ⟨.didSubject, c.text ++ ":" ++ a.text⟩ ∧
        Lookup.didDesign reader c = .ok (some design) ∧ did = design.didOf a ∧
        Lookup.didData reader c a = .ok none) ∨
      fact.Claims ⟨.didDocument, c.text ++ ":" ++ did⟩ ∧
        ∃ document, Lookup.didDocument reader c did = .ok (some document) := by
  cases writes with
  | document found absent =>
    exact .inl ⟨_, _, (Writes.data found absent).claims rfl, found, rfl, absent⟩
  | methods found _ _ =>
    exact .inr ⟨⟨_, rfl, ClaimSet.mem_ofList.mpr List.mem_cons_self⟩, _, found⟩

-- Two facts that write to one slot make a common claim.
theorem claim_shared (paired : reader.Paired) (writes : one.Writes reader slot value)
    (writes' : other.Writes reader slot value') : ∃ claim, one.Claims claim ∧ other.Claims claim := by
  cases slot with
  | account a => exact ⟨_, writes.claims rfl, writes'.claims rfl⟩
  | contractAccount a => exact ⟨_, writes.claims rfl, writes'.claims rfl⟩
  | didDesign c => exact ⟨_, writes.claims rfl, writes'.claims rfl⟩
  | didData c a => exact ⟨_, writes.claims rfl, writes'.claims rfl⟩
  | balance a c => exact absurd rfl writes.not_balance
  | currencyDesign c => cases writes
  | suffrageCandidates => cases writes
  | didDocument c did =>
    -- A document that is there to be updated belongs to somebody with data, and who
    -- creates one has none.
    have apart {a : Address} {design : DidDesign} {document : DidDocument}
        (registry : Lookup.didDesign reader c = .ok (some design)) (named : did = design.didOf a)
        (absent : Lookup.didData reader c a = .ok none)
        (stored : Lookup.didDocument reader c did = .ok (some document)) : False := by
      obtain ⟨data, found⟩ := paired c a design document registry (named ▸ stored)
      rw [absent] at found
      cases found
    rcases writes.document_parts with ⟨a, design, subject, registry, named, absent⟩ | ⟨updates, _, stored⟩
    · rcases writes'.document_parts with ⟨b, design', subject', registry', named', _⟩ | ⟨_, _, stored'⟩
      · rw [registry] at registry'
        cases registry'
        obtain rfl := DidDesign.didOf_inj (named.symm.trans named')
        exact ⟨_, subject, subject'⟩
      · exact (apart registry named absent stored').elim
    · rcases writes'.document_parts with ⟨b, design', _, registry', named', absent'⟩ | ⟨updates', _, _⟩
      · exact (apart registry' named' absent' stored).elim
      · exact ⟨_, updates, updates'⟩

end Fact.Writes

def WritesApart (one other : Operation × List MergeValue) : Prop :=
  ∀ key value value', .set key value ∈ one.2 → .set key value' ∉ other.2

instance : Std.Symm WritesApart :=
  ⟨fun _ _ apart key value value' first second => apart key value' value second first⟩

section Accepted
variable {settings : Settings} {height : Height} {proposal : Option Proposal} {reader : Reader}
  {one other entry : Operation × List MergeValue}

theorem Operation.Executed.value_unique {processor : Processor} {op : Operation}
    {values : List MergeValue}
    (executed : op.Executed settings height proposal reader processor values) {key : String}
    {value value' : StateValue} (set : .set key value ∈ values) (again : .set key value' ∈ values) :
    value = value' := by
  obtain ⟨slot, rfl, writes⟩ := executed.writes set
  obtain ⟨slot', same, writes'⟩ := executed.writes again
  exact writes.value_unique executed.valid writes' (Slot.key_injective same)

theorem writesApart_of_claims {p q : Processor} (standard : settings.registry = Registry.standard)
    (byHint : settings.dispatch.ByHint) (paired : reader.Paired)
    (first : one.1.Executed settings height proposal reader p one.2)
    (second : other.1.Executed settings height proposal reader q other.2)
    (apart : ∀ claim, ¬ (claim ∈ one.1.claims ∧ claim ∈ other.1.claims)) :
    WritesApart one other := by
  intro key value value' set set'
  obtain ⟨slot, rfl, writes⟩ := first.writes set
  obtain ⟨slot', same, writes'⟩ := second.writes set'
  rw [Slot.key_injective same] at writes'
  obtain ⟨claim, ⟨claims, made, held⟩, ⟨claims', made', held'⟩⟩ := writes.claim_shared paired writes'
  refine apart claim ⟨?_, ?_⟩
  · rwa [first.toPermitted.claims_of_standard standard byHint made]
  · rwa [second.toPermitted.claims_of_standard standard byHint made']

end Accepted

-- A key with a set value has no balance: what goes there is all of one sort.
theorem MergeValue.Sound.kind_same {one other : MergeValue} (sound : one.Sound)
    (sound' : other.Sound) (same : one.key = other.key) : one.kind = other.kind := by
  have decided {value : MergeValue} (sound : value.Sound) :
      value.kind = if StateKey.isBalance value.key = true then .balance else .set := by
    cases value with
    | set key _ =>
      have plain : StateKey.isBalance key = false := sound
      simp [MergeValue.kind, MergeValue.key, plain]
    | credit a amount => simp [MergeValue.kind, MergeValue.key, StateKey.isBalance_balance]
    | debit a amount => simp [MergeValue.kind, MergeValue.key, StateKey.isBalance_balance]
  rw [decided sound, decided sound', same]

-- Over any reader that always answers and pairs documents with data: what a session of
-- the standard registry accepts can be written without a conflict, in any order.
theorem accepted_writes_apart {settings : Settings} {e : Engine} {reader : Reader}
    (path : Engine.Reachable settings e) (standard : settings.registry = Registry.standard)
    (byHint : settings.dispatch.ByHint) (rule : settings.duplication = .claims)
    (readable : ∀ key, ∃ found, reader key = .ok found) (paired : reader.Paired) (height : Height)
    (proposal : Option Proposal) {requests : List Request}
    (asked : ∀ request ∈ requests, request.Over reader) :
    let accepted := (Desk.checkout e height proposal).accepted requests
    accepted.Pairwise WritesApart ∧
      (∀ entry ∈ accepted, ∀ key value value',
        .set key value ∈ entry.2 → .set key value' ∈ entry.2 → value = value') ∧
      (∀ one ∈ accepted, ∀ other ∈ accepted, ∀ key value, .set key value ∈ one.2 →
        ∀ change ∈ other.2, change.key = key → change.kind ≠ .balance) ∧
      ∀ order, order.Perm accepted → ∀ written key,
        applyMerges written (batchesOf order) reader ≠ .error (.invariant (.conflictingWrites key)) ∧
        applyMerges written (batchesOf order) reader ≠ .error (.invariant (.mixedMergers key)) := by
  intro accepted
  have kept := Desk.block_kept path rule height proposal asked
  have executed := Desk.accepted_executed path height proposal asked
  have sound : ∀ entry ∈ accepted, ∀ value ∈ entry.2, value.Sound :=
    fun entry member => (kept.accepted entry member).sound
  have single : ∀ entry ∈ accepted, ∀ key value value',
      .set key value ∈ entry.2 → .set key value' ∈ entry.2 → value = value' := by
    intro entry member key value value' set again
    obtain ⟨processor, done⟩ := executed entry member
    exact done.value_unique set again
  have apart : accepted.Pairwise WritesApart := by
    rw [List.pairwise_iff_forall_sublist]
    intro one other pair
    obtain ⟨p, first⟩ := executed one (pair.subset (by simp))
    obtain ⟨q, second⟩ := executed other (pair.subset (by simp))
    exact writesApart_of_claims standard byHint paired first second (kept.claims_apart pair)
  refine ⟨apart, single, ?_, ?_⟩
  · intro one first other second key value set change member same balance
    have sorts := (sound other second change member).kind_same (sound one first _ set) same
    rw [balance] at sorts
    cases sorts
  · intro order same written key
    -- Two values under one key come from one operation, which sets the key once, or from two,
    -- of which only one sets it.
    have coherent : Coherent ((batchesOf order).flatMap Prod.snd) := by
      refine ⟨fun one first other second equal => ?_, fun key value value' set again => ?_⟩
      · obtain ⟨entry, listed, inside⟩ := mem_batchesOf.mp first
        obtain ⟨entry', listed', inside'⟩ := mem_batchesOf.mp second
        exact (sound entry (same.mem_iff.mp listed) one inside).kind_same
          (sound entry' (same.mem_iff.mp listed') other inside') equal
      · obtain ⟨entry, listed, inside⟩ := mem_batchesOf.mp set
        obtain ⟨entry', listed', inside'⟩ := mem_batchesOf.mp again
        have held := same.mem_iff.mp listed
        have held' := same.mem_iff.mp listed'
        by_cases equal : entry = entry'
        · exact single entry held key value value' inside (equal ▸ inside')
        · exact absurd inside' (apart.forall held held' equal key value value' inside)
    exact ⟨fun failed => applyMerges_coherent readable coherent failed trivial,
      fun failed => applyMerges_coherent readable coherent failed trivial⟩

theorem Store.Consistent.paired {store : Store} (consistent : store.Consistent) :
    store.reader.Paired := by
  intro c a design document registry stored
  obtain ⟨_, data, held, named⟩ :=
    consistent.documents _ _ _ (Store.didDocument_stored.mp stored)
  obtain ⟨_, design', _, registry', did, _⟩ := consistent.data _ _ _ held
  rw [Store.didDesign_stored.mp registry] at registry'
  cases registry'
  rw [DidDesign.didOf_inj (named.symm.trans did)]
  exact ⟨data, Store.didData_stored.mpr held⟩

theorem enrolment_writes_apart :
    (Sample.settings.registry = Registry.standard ∧ Sample.settings.dispatch.ByHint ∧
        Sample.settings.duplication = .claims ∧
        (∀ key, ∃ found, enrolLedger.reader key = .ok found) ∧ enrolLedger.reader.Paired ∧
        ∀ request ∈ enrolRequests, request.Over enrolLedger.reader) ∧
      enrolled.map Prod.fst = [enrolling, replacing] ∧ enrolled.Pairwise WritesApart ∧
      ∀ written key,
        applyMerges written (batchesOf enrolled) enrolLedger.reader ≠
          .error (.invariant (.conflictingWrites key)) := by
  have path : Engine.Reachable Sample.settings Sample.engine := .new 1 1
  have readable : ∀ key, ∃ found, enrolLedger.reader key = .ok found := fun _ => ⟨_, rfl⟩
  have paired := enrolLedger_consistent.paired
  have byHint : Sample.settings.dispatch.ByHint := DispatchRule.registry_byHint
  refine ⟨⟨rfl, byHint, rfl, readable, paired, enrolRequests_over⟩, enrolled_run.1, ?_⟩
  obtain ⟨apart, _, _, merged⟩ :=
    accepted_writes_apart path rfl byHint rfl readable paired ⟨2⟩ none enrolRequests_over
  exact ⟨apart, fun written key => (merged _ (.refl _) written key).1⟩

end SignedLedger

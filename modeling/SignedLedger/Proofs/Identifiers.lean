import SignedLedger.Proofs.WellFormed

-- Registries of identifiers. A holder's data, its document and the design of the
-- registry belong together, and every registry is an active contract. Creating an
-- identifier does not look at the document that it writes, so that it takes nobody
-- else's follows from all of this together.
namespace SignedLedger
open Check

structure DidDocument.Sound (document : DidDocument) (did : String) : Prop where
  did_eq : document.did = did
  inhabited : document.authentication ≠ []
  distinct : (document.authentication.map VerificationMethod.id).Nodup
  within : ∀ method ∈ document.authentication, (did ++ "#").toList <+: method.id.toList

namespace Store

structure Consistent (store : Store) : Prop where
  data : ∀ c a data, store.value? (.didData c a) = some (.didData data) →
    data.address = a ∧ ∃ design document,
      store.value? (.didDesign c) = some (.didDesign design) ∧ data.did = design.didOf a ∧
      store.value? (.didDocument c data.did) = some (.didDocument document) ∧
      document.did = data.did ∧ document.controller = a
  documents : ∀ c did document, store.value? (.didDocument c did) = some (.didDocument document) →
    document.Sound did ∧ ∃ data,
      store.value? (.didData c document.controller) = some (.didData data) ∧ data.did = did
  designs : ∀ c design, store.value? (.didDesign c) = some (.didDesign design) →
    ∃ status, store.value? (.contractAccount c) = some (.contractAccount status) ∧
      status.isActive = true

-- Consistency but for the methods: holders, documents and registries belong together.
structure Matched (store : Store) : Prop where
  data : ∀ c a data, store.value? (.didData c a) = some (.didData data) →
    ∃ design document,
      store.value? (.didDesign c) = some (.didDesign design) ∧ data.did = design.didOf a ∧
      store.value? (.didDocument c data.did) = some (.didDocument document) ∧
      document.did = data.did ∧ document.controller = a
  documents : ∀ c did document, store.value? (.didDocument c did) = some (.didDocument document) →
    ∃ data, store.value? (.didData c document.controller) = some (.didData data) ∧ data.did = did
  designs : ∀ c design, store.value? (.didDesign c) = some (.didDesign design) →
    ∃ status, store.value? (.contractAccount c) = some (.contractAccount status) ∧
      status.isActive = true

theorem Consistent.matched {store : Store} (consistent : store.Consistent) : store.Matched :=
  ⟨fun c a data found => (consistent.data c a data found).2,
    fun c did document found => (consistent.documents c did document found).2, consistent.designs⟩

end Store

theorem UpdateDocument.checkMethods_ok {did : String} {seen : List String}
    {methods : List VerificationMethod} (checked : checkMethods did seen methods = .ok ()) :
    (methods.map VerificationMethod.id).Nodup ∧ ∀ method ∈ methods,
      (did ++ "#").toList <+: method.id.toList ∧ method.id ∉ seen := by
  induction methods generalizing seen with
  | nil => exact ⟨List.nodup_nil, by simp⟩
  | cons method rest ih =>
    unfold checkMethods at checked
    simp only [bind_ok, require_ok, Bool.not_eq_true', List.contains_eq_mem,
      decide_eq_false_iff_not] at checked
    obtain ⟨_, own, _, fresh, later⟩ := checked
    obtain ⟨distinct, others⟩ := ih later
    refine ⟨?_, fun other member => ?_⟩
    · rw [List.map_cons, List.nodup_cons]
      refine ⟨fun again => ?_, distinct⟩
      obtain ⟨other, member, same⟩ := List.mem_map.mp again
      exact (others other member).2 (same ▸ List.mem_cons_self)
    · rcases List.mem_cons.mp member with rfl | within
      · exact ⟨List.isPrefixOf_iff_prefix.mp own, fresh⟩
      · obtain ⟨prefixed, apart⟩ := others other within
        exact ⟨prefixed, fun old => apart (List.mem_cons_of_mem _ old)⟩

theorem UpdateDocument.validate_sound {f : UpdateDocument} {limits : Limits} {document : DidDocument}
    (named : document.did = f.did) (valid : f.validate limits = .ok ()) :
    DidDocument.Sound { document with authentication := f.methods } f.did := by
  unfold validate at valid
  simp only [bind_ok, require_ok] at valid
  obtain ⟨_, _, _, _, _, inhabited, _, _, methods⟩ := valid
  obtain ⟨distinct, within⟩ := checkMethods_ok methods
  exact ⟨named, by simpa using inhabited, distinct, fun method member => (within method member).1⟩

theorem CreateDid.document_sound (f : CreateDid) (did : String) : (f.document did).Sound did := by
  refine ⟨rfl, by simp [document], by simp [document], fun method member => ?_⟩
  obtain rfl := List.mem_singleton.mp member
  simp [firstMethod, String.toList_append]

namespace Store.Carries
variable {store later : Store} {facts : List Fact} {value : StateValue} {c a : Address}

-- A contract keeps its owner and its handlers, and an active one stays active.
theorem contract_stays (carries : store.Carries facts later) (shaped : store.Shaped)
    {status : ContractStatus}
    (found : store.value? (.contractAccount c) = some (.contractAccount status)) :
    ∃ status', later.value? (.contractAccount c) = some (.contractAccount status') ∧
      status'.owner = status.owner ∧ status'.handlers = status.handlers ∧
      (status.isActive = true → status'.isActive = true) := by
  rcases carries.kept (.contractAccount c) nofun with same | ⟨fact, listed, value, writes⟩
  · exact ⟨status, same.trans found, rfl, rfl, id⟩
  · have put := carries.put fact listed _ value writes
    cases writes with
    | contract opened absent =>
      -- A new contract needs a free account, and this contract has one.
      obtain ⟨account, held, _⟩ := shaped.keyless _ _ found
      rw [(Fact.Writes.keyless opened absent).absent_of_once trivial] at held
      cases held
    | activation stored _ =>
      rw [Store.contractStatus_stored.mp stored] at found
      cases found
      exact ⟨_, put, rfl, rfl, fun _ => rfl⟩

-- Nobody becomes the controller of a document that somebody else has.
theorem document_stays (carries : store.Carries facts later) (matched : store.Matched)
    {did : String} {document : DidDocument}
    (found : store.value? (.didDocument c did) = some (.didDocument document)) :
    ∃ document', later.value? (.didDocument c did) = some (.didDocument document') ∧
      document'.did = document.did ∧ document'.controller = document.controller ∧
      document'.active = document.active := by
  rcases carries.kept (.didDocument c did) nofun with same | ⟨fact, listed, value, writes⟩
  · exact ⟨document, same.trans found, rfl, rfl, rfl⟩
  · have put := carries.put fact listed _ value writes
    cases writes with
    | document registry absent =>
      -- The document's own data names the holder that asks for the identifier.
      obtain ⟨data, held, named⟩ := matched.documents _ _ _ found
      obtain ⟨design, _, there, same, _⟩ := matched.data _ _ _ held
      rw [Store.didDesign_stored.mp registry] at there
      cases there
      have holder := DidDesign.didOf_inj (named.symm.trans same)
      rw [← holder, (Fact.Writes.data registry absent).absent_of_once trivial] at held
      cases held
    | methods stored _ _ =>
      rw [Store.didDocument_stored.mp stored] at found
      cases found
      exact ⟨_, put, rfl, rfl, rfl⟩

theorem matched (carries : store.Carries facts later) (shaped : store.Shaped)
    (matched : store.Matched) : later.Matched where
  data := by
    intro c a data found
    rcases carries.origin found with before | ⟨fact, listed, writes⟩ | ⟨_, _, _, same, _⟩
    · obtain ⟨design, document, registry, did, stored, named, controller⟩ :=
        matched.data c a data before
      obtain ⟨document', kept, named', controller', _⟩ := carries.document_stays matched stored
      exact ⟨design, document', carries.stays registry trivial, did, kept,
        named'.trans named, controller'.trans controller⟩
    · cases writes with
      -- Holder's data and document are written by one operation.
      | data registry absent =>
        have document := carries.put _ listed _ _ (.document registry absent)
        have design := carries.stays (Store.didDesign_stored.mp registry) trivial
        exact ⟨_, _, design, rfl, document, rfl, rfl⟩
    · cases same
  documents := by
    intro c did document found
    rcases carries.origin found with before | ⟨fact, listed, writes⟩ | ⟨_, _, _, same, _⟩
    · obtain ⟨data, held, named⟩ := matched.documents c did document before
      exact ⟨data, carries.stays held trivial, named⟩
    · cases writes with
      | document registry absent =>
        exact ⟨_, carries.put _ listed _ _ (.data registry absent), rfl⟩
      | methods stored _ _ =>
        obtain ⟨data, held, named⟩ :=
          matched.documents _ _ _ (Store.didDocument_stored.mp stored)
        exact ⟨data, carries.stays held trivial, named⟩
    · cases same
  designs := by
    intro c design found
    rcases carries.origin found with before | ⟨fact, listed, writes⟩ | ⟨_, _, _, same, _⟩
    · obtain ⟨status, held, active⟩ := matched.designs c design before
      obtain ⟨status', stored, _, _, stays⟩ := carries.contract_stays shaped held
      exact ⟨status', stored, stays active⟩
    · cases writes with
      | design status absent =>
        exact ⟨_, carries.put _ listed _ _ (.activation status absent), rfl⟩
    · cases same

theorem consistent (carries : store.Carries facts later) (shaped : store.Shaped)
    (consistent : store.Consistent) : later.Consistent where
  data := by
    intro c a data found
    refine ⟨?_, (carries.matched shaped consistent.matched).data c a data found⟩
    rcases carries.origin found with before | ⟨fact, _, writes⟩ | ⟨_, _, _, same, _⟩
    · exact (consistent.data c a data before).1
    · cases writes with
      | data _ _ => rfl
    · cases same
  documents := by
    intro c did document found
    refine ⟨?_, (carries.matched shaped consistent.matched).documents c did document found⟩
    rcases carries.origin found with before | ⟨fact, listed, writes⟩ | ⟨_, _, _, same, _⟩
    · exact (consistent.documents c did document before).1
    · cases writes with
      | document registry absent => exact CreateDid.document_sound _ _
      | methods stored _ _ =>
        obtain ⟨sound, _⟩ := consistent.documents _ _ _ (Store.didDocument_stored.mp stored)
        obtain ⟨limits, valid⟩ := carries.valid _ listed
        exact UpdateDocument.validate_sound sound.did_eq valid
    · cases same
  designs := (carries.matched shaped consistent.matched).designs

end Store.Carries

theorem blocks_keep_registries {store later : Store} (shaped : store.Shaped)
    (consistent : store.Consistent) (path : Relation.ReflTransGen Store.Block store later) :
    later.Consistent := by
  suffices both : later.Shaped ∧ later.Consistent from both.2
  induction path with
  | refl => exact ⟨shaped, consistent⟩
  | tail _ block ih =>
    obtain ⟨facts, carries⟩ := block.carries
    exact ⟨carries.shaped ih.1, carries.consistent ih.1 ih.2⟩

theorem enrolLedger_stored :
    enrolLedger.value? (.didDesign Sample.carol) = some (.didDesign ⟨"ledger"⟩) ∧
      enrolLedger.value? (.contractAccount Sample.carol) =
        some (.contractAccount ⟨Sample.bob, true, []⟩) ∧
      enrolLedger.value? (.didData Sample.carol Sample.bob) =
        some (.didData ⟨Sample.bob, bobDid⟩) ∧
      enrolLedger.value? (.didDocument Sample.carol bobDid) = some (.didDocument bobDocument) := by
  decide +kernel

theorem bobDocument_sound : bobDocument.Sound bobDid :=
  ⟨rfl, by decide, by decide, by decide +kernel⟩

theorem enrolLedger_consistent : enrolLedger.Consistent := by
  obtain ⟨design, status, data, document⟩ := enrolLedger_stored
  have placed {slot : Slot} {value : StateValue} (found : enrolLedger.value? slot = some value) :
      (slot, value) ∈ enrolEntries.flatMap GenesisEntry.slots :=
    List.mem_flatMap.mpr (Store.genesis_origin found)
  refine ⟨?_, ?_, ?_⟩
  · intro c a data found
    have member := placed found
    simp [enrolEntries, Sample.coins, Sample.held, GenesisEntry.slots] at member
    obtain ⟨⟨rfl, rfl⟩, rfl⟩ := member
    exact ⟨rfl, _, _, design, by decide +kernel, document, rfl, rfl⟩
  · intro c did document found
    have member := placed found
    simp [enrolEntries, Sample.coins, Sample.held, GenesisEntry.slots] at member
    obtain ⟨⟨rfl, rfl⟩, rfl⟩ := member
    exact ⟨bobDocument_sound, _, data, rfl⟩
  · intro c design found
    have member := placed found
    simp [enrolEntries, Sample.coins, Sample.held, GenesisEntry.slots] at member
    obtain ⟨rfl, rfl⟩ := member
    exact ⟨_, status, rfl⟩

theorem enrolment_consistent :
    enrolLedger.Shaped ∧ enrolLedger.Consistent ∧ ∃ later, enrolLedger.Block later ∧
      later.value? (.didDocument Sample.carol bobDid) =
        some (.didDocument { bobDocument with authentication := bobMethods }) ∧
      later.Consistent := by
  obtain ⟨later, block, _, replaced⟩ := enrolment_block
  have shaped := enrolLedger_wellFormed.toShaped
  exact ⟨shaped, enrolLedger_consistent, later, block, replaced,
    blocks_keep_registries shaped enrolLedger_consistent (.single block)⟩

end SignedLedger

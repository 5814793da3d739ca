import SignedLedger.Proofs.Operation.Effects
import SignedLedger.Proofs.State.Slot
import SignedLedger.Proofs.State.Written

-- What each type of fact sets, together with what its admission has found at that
-- time. Money apart, an operation writes this and nothing else.
namespace SignedLedger
open Check

inductive Fact.Writes (reader : Reader) : Fact → Slot → StateValue → Prop where
  | account {f : CreateAccount} {opening : Opening} (listed : opening ∈ f.openings)
      (absent : reader (StateKey.account opening.address) = .ok none) :
      Writes reader (.createAccount f) (.account opening.address)
        (.account (Account.withKeys opening.address opening.item.keys))
  | keyless {f : CreateContract} {opening : Opening} (listed : opening ∈ f.openings)
      (absent : reader (StateKey.account opening.address) = .ok none) :
      Writes reader (.createContract f) (.account opening.address)
        (.account (Account.keyless opening.address))
  | contract {f : CreateContract} {opening : Opening} (listed : opening ∈ f.openings)
      (absent : reader (StateKey.account opening.address) = .ok none) :
      Writes reader (.createContract f) (.contractAccount opening.address)
        (.contractAccount (ContractStatus.new f.sender))
  | design {f : RegisterModel} {status : ContractStatus}
      (found : Lookup.contractStatus reader f.contract = .ok (some status))
      (absent : Lookup.didDesign reader f.contract = .ok none) :
      Writes reader (.registerModel f) (.didDesign f.contract) (.didDesign ⟨f.method⟩)
  | activation {f : RegisterModel} {status : ContractStatus}
      (found : Lookup.contractStatus reader f.contract = .ok (some status))
      (absent : Lookup.didDesign reader f.contract = .ok none) :
      Writes reader (.registerModel f) (.contractAccount f.contract)
        (.contractAccount { status with isActive := true })
  | data {f : CreateDid} {design : DidDesign}
      (found : Lookup.didDesign reader f.contract = .ok (some design))
      (absent : Lookup.didData reader f.contract f.sender = .ok none) :
      Writes reader (.createDid f) (.didData f.contract f.sender)
        (.didData ⟨f.sender, design.didOf f.sender⟩)
  | document {f : CreateDid} {design : DidDesign}
      (found : Lookup.didDesign reader f.contract = .ok (some design))
      (absent : Lookup.didData reader f.contract f.sender = .ok none) :
      Writes reader (.createDid f) (.didDocument f.contract (design.didOf f.sender))
        (.didDocument (f.document (design.didOf f.sender)))
  | methods {f : UpdateDocument} {document : DidDocument}
      (found : Lookup.didDocument reader f.contract f.did = .ok (some document))
      (controlled : document.controller = f.sender) (active : document.active = true) :
      Writes reader (.updateDocument f) (.didDocument f.contract f.did)
        (.didDocument { document with authentication := f.methods })

-- The set values among some values are those that the fact writes, no more and no less.
def Fact.SetIn (reader : Reader) (fact : Fact) (values : List MergeValue) : Prop :=
  ∀ key value, .set key value ∈ values ↔ ∃ slot : Slot, slot.key = key ∧
    fact.Writes reader slot value

namespace Fact.Writes
variable {reader : Reader} {fact : Fact} {slot : Slot} {value : StateValue}

theorem kind_eq (writes : fact.Writes reader slot value) : value.kind = slot.kind := by
  cases writes <;> rfl

theorem plain (writes : fact.Writes reader slot value) : value.Plain := by
  cases writes <;> trivial

theorem not_balance (writes : fact.Writes reader slot value) : slot.kind ≠ .balance := by
  cases writes <;> nofun

end Fact.Writes

section Money
variable {key : String} {value : StateValue}

theorem debitTotals_not_set {payer : Address} {totals : Table Currency Decimal} :
    .set key value ∉ debitTotals payer totals := by
  intro member
  obtain ⟨_, _, same⟩ := List.mem_map.mp member
  cases same

theorem fundingEffects_not_set {sender : Address} {openings : List Opening}
    {values : List MergeValue} (funded : fundingEffects sender openings = .ok values) :
    .set key value ∉ values := by
  obtain ⟨_, _, rfl⟩ := fundingEffects_ok funded
  intro member
  rcases List.mem_append.mp member with credit | debit
  · obtain ⟨_, _, inside⟩ := List.mem_flatMap.mp credit
    obtain ⟨_, _, same⟩ := List.mem_map.mp inside
    cases same
  · exact debitTotals_not_set debit

theorem Transfer.effects_not_set {f : Transfer} {values : List MergeValue}
    (written : f.effects = .ok values) : .set key value ∉ values := by
  obtain ⟨_, _, rfl⟩ := Transfer.effects_ok written
  intro member
  rcases List.mem_append.mp member with debit | credit
  · exact debitTotals_not_set debit
  · obtain ⟨_, _, inside⟩ := List.mem_flatMap.mp credit
    obtain ⟨_, _, same⟩ := List.mem_map.mp inside
    cases same

theorem Withdraw.effects_not_set {f : Withdraw} : .set key value ∉ f.effects := by
  intro member
  obtain ⟨_, _, inside⟩ := List.mem_flatMap.mp member
  obtain ⟨_, _, pair⟩ := List.mem_flatMap.mp inside
  simp at pair

theorem feeEffects_not_set {charge : FeeCharge} : .set key value ∉ feeEffects charge := by
  unfold feeEffects
  split
  · simp
  · split
    · simp
    · simp

end Money

section Facts
variable {reader : Reader} {values : List MergeValue}

theorem permitOpenings_absent {sender : Address} {openings : List Opening}
    (permitted : permitOpenings reader sender openings = .ok ()) :
    ∀ opening ∈ openings, reader (StateKey.account opening.address) = .ok none := by
  unfold permitOpenings at permitted
  obtain ⟨_, _, each⟩ := bind_ok.mp permitted
  intro opening listed
  have own := forM_ok.mp each opening listed
  unfold permitOpening Lookup.ensureAccountAbsent at own
  simp only [bind_ok, lift_ok, require_ok, Option.isNone_iff_eq_none] at own
  obtain ⟨_, ⟨_, read, rfl⟩, _⟩ := own
  exact read

theorem CreateAccount.sets {f : CreateAccount} (permitted : f.permit reader = .ok ())
    (written : f.effects = .ok values) : (Fact.createAccount f).SetIn reader values := by
  have absent := permitOpenings_absent permitted
  unfold CreateAccount.effects at written
  simp only [bind_ok, pure_ok] at written
  obtain ⟨funding, funded, rfl⟩ := written
  intro key value
  constructor
  · intro member
    rcases List.mem_append.mp member with account | money
    · obtain ⟨opening, listed, same⟩ := List.mem_map.mp account
      cases same
      exact ⟨_, rfl, .account listed (absent opening listed)⟩
    · exact absurd money (fundingEffects_not_set funded)
  · rintro ⟨slot, rfl, writes⟩
    cases writes with
    | account listed _ => exact List.mem_append_left _ (List.mem_map.mpr ⟨_, listed, rfl⟩)

theorem CreateContract.sets {f : CreateContract} (permitted : f.permit reader = .ok ())
    (written : f.effects = .ok values) : (Fact.createContract f).SetIn reader values := by
  obtain ⟨_, _, openings⟩ := bind_ok.mp permitted
  have absent := permitOpenings_absent openings
  unfold CreateContract.effects at written
  simp only [bind_ok, pure_ok] at written
  obtain ⟨funding, funded, rfl⟩ := written
  intro key value
  constructor
  · intro member
    rcases List.mem_append.mp member with account | money
    · obtain ⟨opening, listed, pair⟩ := List.mem_flatMap.mp account
      rcases List.mem_cons.mp pair with same | second
      · cases same
        exact ⟨_, rfl, .keyless listed (absent opening listed)⟩
      · cases List.mem_singleton.mp second
        exact ⟨_, rfl, .contract listed (absent opening listed)⟩
    · exact absurd money (fundingEffects_not_set funded)
  · rintro ⟨slot, rfl, writes⟩
    refine List.mem_append_left _ ?_
    cases writes with
    | keyless listed _ => exact List.mem_flatMap.mpr ⟨_, listed, List.mem_cons_self⟩
    | contract listed _ =>
      exact List.mem_flatMap.mpr ⟨_, listed, List.mem_cons_of_mem _ List.mem_cons_self⟩

theorem RegisterModel.sets {f : RegisterModel} (permitted : f.permit reader = .ok ())
    (written : f.effects reader = .ok values) : (Fact.registerModel f).SetIn reader values := by
  unfold RegisterModel.permit at permitted
  unfold RegisterModel.effects Lookup.existingContractStatus at written
  simp only [bind_ok, lift_ok, require_ok, existing_ok, pure_ok, Option.isNone_iff_eq_none]
    at permitted written
  obtain ⟨_, _, _, absent, rfl⟩ := permitted
  obtain ⟨status, found, rfl⟩ := written
  intro key value
  simp only [List.mem_cons, List.not_mem_nil, or_false, MergeValue.set.injEq]
  constructor
  · rintro (⟨rfl, rfl⟩ | ⟨rfl, rfl⟩)
    · exact ⟨_, rfl, .design found absent⟩
    · exact ⟨_, rfl, .activation found absent⟩
  · rintro ⟨slot, rfl, writes⟩
    cases writes with
    | design _ _ => exact .inl ⟨rfl, rfl⟩
    | activation again _ =>
      rw [found] at again
      cases again
      exact .inr ⟨rfl, rfl⟩

theorem CreateDid.sets {f : CreateDid} (permitted : f.permit reader = .ok ())
    (written : f.effects reader = .ok values) : (Fact.createDid f).SetIn reader values := by
  unfold CreateDid.permit at permitted
  unfold CreateDid.effects Lookup.existingDidDesign at written
  simp only [bind_ok, lift_ok, require_ok, existing_ok, pure_ok, Option.isNone_iff_eq_none]
    at permitted written
  obtain ⟨_, _, _, _, _, absent, rfl⟩ := permitted
  obtain ⟨design, found, rfl⟩ := written
  intro key value
  simp only [List.mem_cons, List.not_mem_nil, or_false, MergeValue.set.injEq]
  constructor
  · rintro (⟨rfl, rfl⟩ | ⟨rfl, rfl⟩)
    · exact ⟨_, rfl, .data found absent⟩
    · exact ⟨_, rfl, .document found absent⟩
  · rintro ⟨slot, rfl, writes⟩
    cases writes with
    | data again _ =>
      rw [found] at again
      cases again
      exact .inl ⟨rfl, rfl⟩
    | document again _ =>
      rw [found] at again
      cases again
      exact .inr ⟨rfl, rfl⟩

theorem UpdateDocument.sets {f : UpdateDocument} (written : f.effects reader = .ok values) :
    (Fact.updateDocument f).SetIn reader values := by
  unfold UpdateDocument.effects UpdateDocument.controlledDocument Lookup.existingDidDocument
    at written
  simp only [bind_ok, require_ok, existing_ok, pure_ok, decide_eq_true_eq] at written
  obtain ⟨_, ⟨document, found, _, controlled, _, active, rfl⟩, rfl⟩ := written
  intro key value
  simp only [List.mem_cons, List.not_mem_nil, or_false, MergeValue.set.injEq]
  constructor
  · rintro ⟨rfl, rfl⟩
    exact ⟨_, rfl, .methods found controlled active⟩
  · rintro ⟨slot, rfl, writes⟩
    cases writes with
    | methods again _ _ =>
      rw [found] at again
      cases again
      exact ⟨rfl, rfl⟩

end Facts

theorem Processor.sets {p : Processor} {op : Operation} {reader : Reader}
    {values : List MergeValue} (bound : p.bound.require = .ok reader)
    (builtIn : op.fact.kind?.isSome = true) (permitted : p.permit op = .ok ())
    (written : p.effects op = .ok values) :
    (∀ key value, .set key value ∉ values) ∨ op.fact.SetIn reader values := by
  have bind {α : Type} (f : Reader → Check α) :
      (do f (← (liftM p.bound.require : Check Reader))) = f reader := by
    rw [bound]
    rfl
  unfold Processor.effects at written
  unfold Processor.permit at permitted
  split at written
  all_goals try rename_i served held
  all_goals try simp only [served, held, bind] at written permitted
  · exact .inl fun _ _ => Transfer.effects_not_set (lift_ok.mp written)
  · rw [held]
    exact .inr (CreateAccount.sets permitted (lift_ok.mp written))
  · rw [held]
    exact .inr (CreateContract.sets permitted (lift_ok.mp written))
  · cases written
    exact .inl fun _ _ => Withdraw.effects_not_set
  · rw [held]
    exact .inr (RegisterModel.sets permitted written)
  · rw [held]
    exact .inr (CreateDid.sets permitted written)
  · rw [held]
    exact .inr (UpdateDocument.sets written)
  · cases written
    exact .inl (by simp)
  · simp at written
  · rw [bind] at written
    rw [served.downcast builtIn written]
    exact .inl (by simp)

theorem typeAndFeeValues_sets {p : Processor} {op : Operation} {reader : Reader}
    {values : List MergeValue} (bound : p.bound.require = .ok reader)
    (builtIn : op.fact.kind?.isSome = true) (permitted : p.permit op = .ok ())
    (written : typeAndFeeValues p op reader = .ok values) :
    (∀ key value, .set key value ∉ values) ∨ op.fact.SetIn reader values := by
  obtain ⟨own, charges, effects, _, rfl⟩ := typeAndFeeValues_parts written
  have fees {key : String} {value : StateValue} :
      .set key value ∈ own ++ charges.flatMap feeEffects ↔ .set key value ∈ own := by
    rw [List.mem_append, or_iff_left]
    intro fee
    obtain ⟨_, _, inside⟩ := List.mem_flatMap.mp fee
    exact feeEffects_not_set inside
  rcases Processor.sets bound builtIn permitted effects with none | sets
  · exact .inl fun key value member => none key value (fees.mp member)
  · exact .inr fun key value => fees.trans (sets key value)

end SignedLedger

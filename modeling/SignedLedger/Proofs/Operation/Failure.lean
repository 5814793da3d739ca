import SignedLedger.Proofs.Operation.Writes
import SignedLedger.Proofs.Pipeline.Failure

-- What operations of the built-in types fail with: when their form is looked at, when
-- their processor permits them, and when it works out what they write.
namespace SignedLedger
open Check Failure
variable {reader : Reader} {limits : Limits}

section Form

theorem checkToken_expected {token : List UInt8} :
    FailsOnly (Expected reader) (checkToken token) :=
  require_expected nofun

theorem checkItemCount_expected {count limit : Nat} :
    FailsOnly (Expected reader) (checkItemCount count limit) := by
  apply FailsOnly.bind (require_expected (by decide))
  intro _ _
  exact require_expected nofun

theorem checkEachAmount_expected {seen : List Currency} {amounts : List Amount} :
    FailsOnly (Expected reader) (checkEachAmount seen amounts) := by
  induction amounts generalizing seen with
  | nil => exact FailsOnly.ok ()
  | cons amount rest ih =>
    apply FailsOnly.bind (require_expected (by decide))
    intro _ _
    apply FailsOnly.bind (require_expected (by decide))
    intro _ _
    exact ih

theorem checkAmounts_expected {amounts : List Amount} :
    FailsOnly (Expected reader) (checkAmounts limits amounts) := by
  apply FailsOnly.bind (require_expected (by decide))
  intro _ _
  apply FailsOnly.bind (require_expected (by decide))
  intro _ _
  exact checkEachAmount_expected

theorem checkParties_expected {sender : Address} {itself twice : String} {seen : List Address}
    {items : List Payment} :
    FailsOnly (Expected reader) (checkParties limits sender itself twice seen items) := by
  induction items generalizing seen with
  | nil => exact FailsOnly.ok ()
  | cons item rest ih =>
    apply FailsOnly.bind checkAmounts_expected
    intro _ _
    apply FailsOnly.bind (require_expected (by decide))
    intro _ _
    apply FailsOnly.bind (require_expected (by decide))
    intro _ _
    exact ih

theorem checkOpenings_expected {sender : Address} {seen : List Address} {openings : List Opening} :
    FailsOnly (Expected reader) (checkOpenings limits sender seen openings) := by
  induction openings generalizing seen with
  | nil => exact FailsOnly.ok ()
  | cons opening rest ih =>
    apply FailsOnly.bind checkAmounts_expected
    intro _ _
    apply FailsOnly.bind (require_expected (by decide))
    intro _ _
    apply FailsOnly.bind (require_expected (by decide))
    intro _ _
    apply FailsOnly.bind (require_expected (by decide))
    intro _ _
    exact ih

theorem checkMethods_expected {did : String} {seen : List String}
    {methods : List VerificationMethod} :
    FailsOnly (Expected reader) (UpdateDocument.checkMethods did seen methods) := by
  induction methods generalizing seen with
  | nil => exact FailsOnly.ok ()
  | cons method rest ih =>
    apply FailsOnly.bind (require_expected (by decide))
    intro _ _
    apply FailsOnly.bind (require_expected (by decide))
    intro _ _
    exact ih

theorem token_expected {α : Type} {token : List UInt8} {later : Check α}
    (rest : FailsOnly (Expected reader) later) :
    FailsOnly (Expected reader) (do checkToken token; later) := by
  apply FailsOnly.bind checkToken_expected
  intro _ _
  exact rest

theorem validate_expected {fact : Fact} (builtIn : fact.kind?.isSome = true) :
    FailsOnly (Expected reader) (fact.validate limits) := by
  have listed {α : Type} {items : List α} {each : Check Unit}
      (parties : FailsOnly (Expected reader) each) :
      FailsOnly (Expected reader) (do checkItemCount items.length limits.maxItems; each) := by
    apply FailsOnly.bind checkItemCount_expected
    intro _ _
    exact parties
  cases fact with
  | transfer f => exact token_expected (listed checkParties_expected)
  | createAccount f => exact token_expected (listed checkOpenings_expected)
  | createContract f => exact token_expected (listed checkOpenings_expected)
  | withdraw f => exact token_expected (listed checkParties_expected)
  | registerModel f =>
    apply token_expected
    apply FailsOnly.bind (require_expected (by decide))
    intro _ _
    exact require_expected nofun
  | createDid f => exact token_expected (require_expected nofun)
  | updateDocument f =>
    apply token_expected
    apply FailsOnly.bind (require_expected (by decide))
    intro _ _
    apply FailsOnly.bind (require_expected (by decide))
    intro _ _
    apply FailsOnly.bind (require_expected (by decide))
    intro _ _
    exact checkMethods_expected
  | candidate f => exact checkToken_expected
  | declared f => cases builtIn

theorem checkSigns_expected {network : NetworkId} {fact : Digest} {seen : List PublicKey}
    {signs : List Sign} :
    FailsOnly (Expected reader) (Operation.checkSigns network fact seen signs) := by
  induction signs generalizing seen with
  | nil => exact FailsOnly.ok ()
  | cons sign rest ih =>
    apply FailsOnly.bind (require_expected (by decide))
    intro _ _
    apply FailsOnly.bind (require_expected (by decide))
    intro _ _
    exact ih

theorem verifySigns_expected {network : NetworkId} {op : Operation} :
    FailsOnly (Expected reader) (op.verifySigns network) := by
  apply FailsOnly.bind (require_expected (by decide))
  intro _ _
  exact checkSigns_expected

end Form

section Permit

theorem Transfer.permit_expected {f : Transfer} : FailsOnly (Expected reader) (f.permit reader) := by
  apply FailsOnly.bind existingAccount_expected
  intro _ _
  apply FailsOnly.bind ensureNotContract_expected
  intro _ _
  apply FailsOnly.forM
  intro item _
  apply FailsOnly.bind existingAccount_expected
  intro _ _
  apply FailsOnly.forM
  intro amount _
  apply FailsOnly.bind existingCurrencyDesign_expected
  intro _ _
  apply FailsOnly.bind existingBalance_expected
  intro _ _
  exact FailsOnly.ok ()

theorem Withdraw.permit_expected {f : Withdraw} : FailsOnly (Expected reader) (f.permit reader) := by
  apply FailsOnly.forM
  intro item _
  apply FailsOnly.bind existingContractStatus_expected
  intro _ _
  apply FailsOnly.forM
  intro amount _
  apply FailsOnly.bind existingCurrencyDesign_expected
  intro _ _
  apply FailsOnly.bind existingBalance_expected
  intro _ _
  exact FailsOnly.ok ()

theorem permitFunding_expected {sender : Address} {amount : Amount} :
    FailsOnly (Expected reader) (permitFunding reader sender amount) := by
  apply FailsOnly.bind existingCurrencyDesign_expected
  intro _ _
  apply FailsOnly.bind (require_expected (by decide))
  intro _ _
  apply FailsOnly.bind existingBalance_expected
  intro _ _
  exact FailsOnly.ok ()

theorem permitOpenings_expected {sender : Address} {openings : List Opening} :
    FailsOnly (Expected reader) (permitOpenings reader sender openings) := by
  apply FailsOnly.bind existingAccount_expected
  intro _ _
  apply FailsOnly.forM
  intro opening _
  apply FailsOnly.bind ensureAccountAbsent_expected
  intro _ _
  exact FailsOnly.forM fun _ _ => permitFunding_expected

theorem CreateContract.permit_expected {f : CreateContract} :
    FailsOnly (Expected reader) (f.permit reader) := by
  apply FailsOnly.bind ensureNotContract_expected
  intro _ _
  exact permitOpenings_expected

theorem RegisterModel.permit_expected {f : RegisterModel} :
    FailsOnly (Expected reader) (f.permit reader) := by
  apply FailsOnly.bind existingCurrencyDesign_expected
  intro _ _
  apply FailsOnly.bind (read_expected Lookup.didDesign_trouble)
  intro _ _
  exact require_expected nofun

theorem CreateDid.permit_expected {f : CreateDid} :
    FailsOnly (Expected reader) (f.permit reader) := by
  apply FailsOnly.bind existingCurrencyDesign_expected
  intro _ _
  apply FailsOnly.bind existingDidDesign_expected
  intro _ _
  apply FailsOnly.bind (read_expected Lookup.didData_trouble)
  intro _ _
  exact require_expected nofun

theorem UpdateDocument.controlledDocument_expected {f : UpdateDocument} :
    FailsOnly (Expected reader) (f.controlledDocument reader) := by
  apply FailsOnly.bind existingDidDocument_expected
  intro _ _
  apply FailsOnly.bind (require_expected (by decide))
  intro _ _
  apply FailsOnly.bind (require_expected (by decide))
  intro _ _
  exact FailsOnly.ok _

theorem UpdateDocument.permit_expected {f : UpdateDocument} :
    FailsOnly (Expected reader) (f.permit reader) := by
  apply FailsOnly.bind existingCurrencyDesign_expected
  intro _ _
  apply FailsOnly.bind controlledDocument_expected
  intro _ _
  exact FailsOnly.ok ()

theorem Candidate.permit_expected {f : Candidate} {suffrage : List Address} :
    FailsOnly (Expected reader) (f.permit reader suffrage) := by
  apply FailsOnly.bind (read_expected Lookup.suffrageCandidates_trouble)
  intro _ _
  apply FailsOnly.bind (require_expected (by decide))
  intro _ _
  apply FailsOnly.bind (require_expected (by decide))
  intro _ _
  exact require_expected nofun

end Permit

section Effects
variable {values : List MergeValue} {fault : Fault}

theorem totalsOf_fault {overflow : Currency → Overflow} {amounts : List Amount}
    (failed : totalsOf overflow amounts = .error fault) : ∃ overflow, fault = .arithmetic overflow := by
  obtain ⟨_, amount, _, totals, _, _, stopped⟩ := foldlM_error failed
  unfold addTotal at stopped
  split at stopped
  · cases stopped
  · cases stopped
    exact ⟨_, rfl⟩

theorem Transfer.effects_fault {f : Transfer} (failed : f.effects = .error fault) :
    ∃ overflow, fault = .arithmetic overflow := by
  unfold effects at failed
  rcases bind_error.mp failed with summing | ⟨_, _, none⟩
  · exact totalsOf_fault summing
  · cases none

theorem fundingEffects_fault {sender : Address} {openings : List Opening}
    (failed : fundingEffects sender openings = .error fault) :
    ∃ overflow, fault = .arithmetic overflow := by
  unfold fundingEffects at failed
  rcases bind_error.mp failed with summing | ⟨_, _, none⟩
  · exact totalsOf_fault summing
  · cases none

theorem CreateAccount.effects_fault {f : CreateAccount} (failed : f.effects = .error fault) :
    ∃ overflow, fault = .arithmetic overflow := by
  unfold effects at failed
  rcases bind_error.mp failed with funding | ⟨_, _, none⟩
  · exact fundingEffects_fault funding
  · cases none

theorem CreateContract.effects_fault {f : CreateContract} (failed : f.effects = .error fault) :
    ∃ overflow, fault = .arithmetic overflow := by
  unfold effects at failed
  rcases bind_error.mp failed with funding | ⟨_, _, none⟩
  · exact fundingEffects_fault funding
  · cases none

theorem sums_expected {α : Type} {summed : Except Fault α}
    (faults : ∀ {fault}, summed = .error fault → ∃ overflow, fault = .arithmetic overflow) :
    FailsOnly (Expected reader) (liftM summed : Check α) := by
  apply FailsOnly.lift
  intro fault failed
  obtain ⟨overflow, rfl⟩ := faults failed
  exact .overflow overflow

theorem RegisterModel.effects_expected {f : RegisterModel} :
    FailsOnly (Expected reader) (f.effects reader) := by
  apply FailsOnly.bind existingContractStatus_expected
  intro _ _
  exact FailsOnly.ok _

theorem CreateDid.effects_expected {f : CreateDid} :
    FailsOnly (Expected reader) (f.effects reader) := by
  apply FailsOnly.bind existingDidDesign_expected
  intro _ _
  exact FailsOnly.ok _

theorem UpdateDocument.effects_expected {f : UpdateDocument} :
    FailsOnly (Expected reader) (f.effects reader) := by
  apply FailsOnly.bind controlledDocument_expected
  intro _ _
  exact FailsOnly.ok _

end Effects

def Fact.ownPermit (reader : Reader) (suffrage : List Address) : Fact → Check Unit
  | .transfer f => f.permit reader
  | .createAccount f => f.permit reader
  | .createContract f => f.permit reader
  | .withdraw f => f.permit reader
  | .registerModel f => f.permit reader
  | .createDid f => f.permit reader
  | .updateDocument f => f.permit reader
  | .candidate f => f.permit reader suffrage
  | .declared _ => .ok ()

def Fact.ownEffects (reader : Reader) : Fact → Check (List MergeValue)
  | .transfer f => liftM f.effects
  | .createAccount f => liftM f.effects
  | .createContract f => liftM f.effects
  | .withdraw f => .ok f.effects
  | .registerModel f => f.effects reader
  | .createDid f => f.effects reader
  | .updateDocument f => f.effects reader
  | .candidate _ => .ok []
  | .declared _ => .ok []

section Own
variable {p : Processor} {op : Operation} {kind : FactKind}

-- A processor either treats the facts of its type or refuses them all alike.
theorem Processor.permit_own (serving : p.kind = .builtIn kind) (bound : p.bound.require = .ok reader) :
    p.permit op = if op.fact.kind? = some kind then op.fact.ownPermit reader p.suffrage
      else fail (.factMismatch kind op.fact.hint) := by
  obtain ⟨_, ⟨_, held⟩, _⟩ := p
  obtain ⟨_, fact, _, _⟩ := op
  cases held with
  | none => cases bound
  | some _ =>
    cases bound
    cases serving
    cases kind <;> cases fact <;> rfl

theorem Processor.effects_own (serving : p.kind = .builtIn kind)
    (bound : p.bound.require = .ok reader) :
    p.effects op = if op.fact.kind? = some kind then op.fact.ownEffects reader
      else fail (.factMismatch kind op.fact.hint) := by
  obtain ⟨_, ⟨_, held⟩, _⟩ := p
  obtain ⟨_, fact, _, _⟩ := op
  cases held with
  | none => cases bound
  | some _ =>
    cases bound
    cases serving
    cases kind <;> cases fact <;> rfl

theorem Fact.ownPermit_expected {fact : Fact} {suffrage : List Address}
    (builtIn : fact.kind? = some kind) :
    FailsOnly (Expected reader) (fact.ownPermit reader suffrage) := by
  cases fact with
  | transfer f => exact Transfer.permit_expected
  | createAccount f => exact permitOpenings_expected
  | createContract f => exact CreateContract.permit_expected
  | withdraw f => exact Withdraw.permit_expected
  | registerModel f => exact RegisterModel.permit_expected
  | createDid f => exact CreateDid.permit_expected
  | updateDocument f => exact UpdateDocument.permit_expected
  | candidate f => exact Candidate.permit_expected
  | declared f => cases builtIn

theorem Fact.ownEffects_expected {fact : Fact} :
    FailsOnly (Expected reader) (fact.ownEffects reader) := by
  cases fact with
  | transfer f => exact sums_expected Transfer.effects_fault
  | createAccount f => exact sums_expected CreateAccount.effects_fault
  | createContract f => exact sums_expected CreateContract.effects_fault
  | withdraw f => exact FailsOnly.ok _
  | registerModel f => exact RegisterModel.effects_expected
  | createDid f => exact CreateDid.effects_expected
  | updateDocument f => exact UpdateDocument.effects_expected
  | candidate f => exact FailsOnly.ok _
  | declared f => exact FailsOnly.ok _

theorem CreateAccount.effects_money {f : CreateAccount} {values : List MergeValue}
    (written : f.effects = .ok values) : MoneyOnly values := by
  unfold effects at written
  simp only [bind_ok, pure_ok] at written
  obtain ⟨funding, funded, rfl⟩ := written
  intro key value member
  rcases List.mem_append.mp member with account | money
  · obtain ⟨opening, _, same⟩ := List.mem_map.mp account
    cases same
    exact StateKey.isBalance_account _
  · exact absurd money (fundingEffects_not_set funded)

theorem CreateContract.effects_money {f : CreateContract} {values : List MergeValue}
    (written : f.effects = .ok values) : MoneyOnly values := by
  unfold effects at written
  simp only [bind_ok, pure_ok] at written
  obtain ⟨funding, funded, rfl⟩ := written
  intro key value member
  rcases List.mem_append.mp member with account | money
  · obtain ⟨opening, _, pair⟩ := List.mem_flatMap.mp account
    rcases List.mem_cons.mp pair with same | second
    · cases same
      exact StateKey.isBalance_account _
    · cases List.mem_singleton.mp second
      exact StateKey.isBalance_contractAccount _
  · exact absurd money (fundingEffects_not_set funded)

theorem Fact.ownEffects_money {fact : Fact} {values : List MergeValue}
    (builtIn : fact.kind? = some kind) (written : fact.ownEffects reader = .ok values) :
    MoneyOnly values := by
  cases fact with
  | transfer f => exact fun _ _ set => absurd set (Transfer.effects_not_set (lift_ok.mp written))
  | createAccount f => exact CreateAccount.effects_money (lift_ok.mp written)
  | createContract f => exact CreateContract.effects_money (lift_ok.mp written)
  | withdraw f =>
    cases written
    exact fun _ _ set => absurd set Withdraw.effects_not_set
  | registerModel f => exact fun _ _ set => RegisterModel.effects_sound written _ set
  | createDid f => exact fun _ _ set => CreateDid.effects_sound written _ set
  | updateDocument f => exact fun _ _ set => UpdateDocument.effects_sound written _ set
  | candidate f =>
    cases written
    intro _ _ set
    cases set
  | declared f => cases builtIn

theorem MoneyOnly.withFees {values : List MergeValue} (money : MoneyOnly values)
    (charges : List FeeCharge) : MoneyOnly (values ++ charges.flatMap feeEffects) := by
  intro key value member
  rcases List.mem_append.mp member with own | fee
  · exact money key value own
  · obtain ⟨_, _, inside⟩ := List.mem_flatMap.mp fee
    exact absurd inside feeEffects_not_set

end Own
end SignedLedger

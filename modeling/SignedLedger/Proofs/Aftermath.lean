import SignedLedger.Proofs.Faults
import SignedLedger.Proofs.Operation.Totals
import SignedLedger.Proofs.Pipeline.Authorization
import SignedLedger.Proofs.WellFormed

-- What can still go wrong with an operation that has been admitted. Whatever its
-- processor and its fees look up or add up, the admission has looked up and added up
-- before; only who receives the fees, and whether all changes together fit the stored
-- balances, is asked for the first time.
namespace SignedLedger
open Check Failure

structure Reader.Orderly (reader : Reader) : Prop where
  readable : ∀ key, ∃ found, reader key = .ok found
  typed : ∀ (slot : Slot) (state : State), reader slot.key = .ok (some state) →
    state.value.kind = slot.kind

theorem Reader.Orderly.untroubled {reader : Reader} (orderly : reader.Orderly) {fault : Fault} :
    ¬ reader.Trouble fault := by
  intro trouble
  cases trouble with
  | @failing key _ failed =>
    obtain ⟨found, read⟩ := orderly.readable key
    rw [read] at failed
    cases failed
  | mistyped stored other => exact other (orderly.typed _ _ stored)

theorem Store.orderly {store : Store}
    (matching : ∀ slot value, store.value? slot = some value → value.kind = slot.kind) :
    store.reader.Orderly where
  readable := fun _ => ⟨_, rfl⟩
  typed := by
    intro slot state read
    apply matching slot
    rw [Store.value?, Except.ok.inj read]
    rfl

theorem Store.genesis_orderly {height : Height} {entries : List GenesisEntry} :
    (genesis height entries).reader.Orderly := by
  apply Store.orderly
  intro slot value found
  obtain ⟨entry, _, member⟩ := genesis_origin found
  exact entry.slots_kind _ member

-- How a call about the effects of an operation ends, given what its processor and its
-- charges come to.
inductive Aftermath (reader : Reader) (own : List MergeValue) (charges : List FeeCharge) :
    Except Fault Outcome → Prop where
  | accepted (balanced : checkBalances reader (own ++ charges.flatMap feeEffects) = .ok ()) :
      Aftermath reader own charges (.ok (.accepted (own ++ charges.flatMap feeEffects)))
  | short {message : String}
      (unpaid : checkBalances reader (own ++ charges.flatMap feeEffects) =
        .error (.rejected ⟨.insufficientBalance, message⟩)) :
      Aftermath reader own charges (.ok (.rejected ⟨.insufficientBalance, message⟩))
  | overflow {overflow : Overflow}
      (unsummed : checkBalances reader (own ++ charges.flatMap feeEffects) =
        .error (.failed (.arithmetic overflow))) :
      Aftermath reader own charges (.error (.arithmetic overflow))
  | unreceived {charge : FeeCharge} {receiver : Address} (listed : charge ∈ charges)
      (received : charge.receiver = some receiver)
      (absent : Lookup.account reader receiver = .ok none) :
      Aftermath reader own charges
        (.ok (.rejected ⟨.stateNotFound, s!"account {receiver} not found"⟩))

section Checked
variable {reader : Reader} {op : Operation} {kind : FactKind} {charges : List FeeCharge}

theorem checkCharge_held {charge : FeeCharge} (checked : checkCharge reader charge = .ok ()) :
    ∃ balance, Lookup.balance reader charge.payer charge.amount.currency = .ok (some balance) := by
  unfold checkCharge Lookup.existingBalance at checked
  simp only [bind_ok, existing_ok] at checked
  obtain ⟨balance, held, _⟩ := checked
  exact ⟨balance, held⟩

theorem checkCapabilities_charges (checked : checkCapabilities op reader = .ok ()) :
    ∃ charges, op.charges reader = .ok charges ∧
      ∀ charge ∈ charges, checkCharge reader charge = .ok () := by
  obtain ⟨charges, charged, each⟩ := bind_ok.mp (checkCapabilities_parts checked).1
  exact ⟨charges, charged, forM_ok.mp each⟩

theorem checkCapabilities_access (checked : checkCapabilities op reader = .ok ())
    {accesses : List ContractAccess} (asked : op.fact.ownerOnly? = some accesses) :
    ∀ access ∈ accesses, ∃ status,
      Lookup.contractStatus reader access.contract = .ok (some status) := by
  obtain ⟨_, _, each, _⟩ := checkCapabilities_parts checked
  rw [asked, Option.getD_some] at each
  intro access listed
  have own := each access listed
  unfold checkAccess Lookup.existingContractStatus at own
  simp only [bind_ok, existing_ok] at own
  obtain ⟨status, found, _⟩ := own
  exact ⟨status, found⟩

section Effects
variable {payer : Address}

theorem Transfer.effects_succeed {f : Transfer}
    (charged : chargesIn reader payer f.feeTerms.base = .ok charges) :
    ∃ own, f.effects = .ok own := by
  obtain ⟨totals, summed⟩ : ∃ totals, totalsOf .transferTotal (allAmounts f.items) = .ok totals :=
    totalsOf_succeeds charged
  unfold effects
  rw [summed]
  exact ⟨_, rfl⟩

theorem fundingEffects_succeed {sender : Address} {openings : List Opening}
    (charged : chargesIn reader payer (FeeBase.ofAmounts (openingAmounts openings)) = .ok charges) :
    ∃ funding, fundingEffects sender openings = .ok funding := by
  obtain ⟨totals, summed⟩ : ∃ totals,
      totalsOf .fundingTotal (openingAmounts openings) = .ok totals := totalsOf_succeeds charged
  unfold fundingEffects
  rw [summed]
  exact ⟨_, rfl⟩

theorem CreateAccount.effects_succeed {f : CreateAccount}
    (charged : chargesIn reader payer f.feeTerms.base = .ok charges) :
    ∃ own, f.effects = .ok own := by
  obtain ⟨funding, funded⟩ : ∃ funding, fundingEffects f.sender f.openings = .ok funding :=
    fundingEffects_succeed charged
  unfold effects
  rw [funded]
  exact ⟨_, rfl⟩

theorem CreateContract.effects_succeed {f : CreateContract}
    (charged : chargesIn reader payer f.feeTerms.base = .ok charges) :
    ∃ own, f.effects = .ok own := by
  obtain ⟨funding, funded⟩ : ∃ funding, fundingEffects f.sender f.openings = .ok funding :=
    fundingEffects_succeed charged
  unfold effects
  rw [funded]
  exact ⟨_, rfl⟩

theorem RegisterModel.effects_succeed {f : RegisterModel} {status : ContractStatus}
    (there : Lookup.contractStatus reader f.contract = .ok (some status)) :
    ∃ own, f.effects reader = .ok own := by
  have found : Lookup.existingContractStatus reader f.contract = .ok status := existing_ok.mpr there
  unfold effects
  rw [found]
  exact ⟨_, rfl⟩

theorem CreateDid.effects_succeed {f : CreateDid} (permitted : f.permit reader = .ok ()) :
    ∃ own, f.effects reader = .ok own := by
  unfold permit at permitted
  obtain ⟨_, _, permitted⟩ := bind_ok.mp permitted
  obtain ⟨design, found, _⟩ := bind_ok.mp permitted
  unfold effects
  rw [found]
  exact ⟨_, rfl⟩

theorem UpdateDocument.effects_succeed {f : UpdateDocument}
    (permitted : f.permit reader = .ok ()) : ∃ own, f.effects reader = .ok own := by
  unfold permit at permitted
  obtain ⟨_, _, permitted⟩ := bind_ok.mp permitted
  obtain ⟨document, found, _⟩ := bind_ok.mp permitted
  unfold effects
  rw [found]
  exact ⟨_, rfl⟩

end Effects

-- Working out the effects cannot fail any more: their amounts were summed for the fees,
-- and the states they build on were looked up to admit the operation.
theorem Operation.ownEffects_succeed {suffrage : List Address}
    (checked : checkCapabilities op reader = .ok ())
    (permitted : op.fact.ownPermit reader suffrage = .ok ()) (typed : op.fact.kind? = some kind) :
    ∃ own, op.fact.ownEffects reader = .ok own := by
  obtain ⟨_, charged, _⟩ := checkCapabilities_charges checked
  unfold charges at charged
  have lifted {summed : Except Fault (List MergeValue)} (done : ∃ own, summed = .ok own) :
      ∃ own, (liftM summed : Check (List MergeValue)) = .ok own := by
    obtain ⟨own, done⟩ := done
    exact ⟨own, lift_ok.mpr done⟩
  cases held : op.fact with
  | transfer f =>
    rw [held] at charged
    exact lifted (Transfer.effects_succeed charged)
  | createAccount f =>
    rw [held] at charged
    exact lifted (CreateAccount.effects_succeed charged)
  | createContract f =>
    rw [held] at charged
    exact lifted (CreateContract.effects_succeed charged)
  | withdraw f => exact ⟨_, rfl⟩
  | registerModel f =>
    have asked : op.fact.ownerOnly? = some f.ownerOnly := by rw [held]; rfl
    obtain ⟨status, there⟩ := checkCapabilities_access checked asked _ List.mem_cons_self
    exact RegisterModel.effects_succeed there
  | createDid f =>
    rw [held] at permitted
    exact CreateDid.effects_succeed permitted
  | updateDocument f =>
    rw [held] at permitted
    exact UpdateDocument.effects_succeed permitted
  | candidate f => exact ⟨_, rfl⟩
  | declared f =>
    rw [held] at typed
    cases typed

theorem settleCharges_received (orderly : reader.Orderly)
    (affordable : ∀ charge ∈ charges, checkCharge reader charge = .ok ()) :
    settleCharges reader charges = .ok (charges.flatMap feeEffects) ∨
      ∃ charge ∈ charges, ∃ receiver, charge.receiver = some receiver ∧
        Lookup.account reader receiver = .ok none ∧
        settleCharges reader charges =
          .error (.rejected ⟨.stateNotFound, s!"account {receiver} not found"⟩) := by
  cases settled : settleCharges reader charges with
  | ok values =>
    rw [(settleCharges_iff.mp settled).2]
    exact .inl rfl
  | error failure =>
    right
    cases settleCharges_unsettled (fun _ listed => listed) failure settled with
    | @payer charge _ listed absent =>
      obtain ⟨balance, held⟩ := checkCharge_held (affordable charge listed)
      rw [absent] at held
      cases held
    | @receiver charge account listed received absent =>
      exact ⟨charge, listed, account, received, absent, rfl⟩
    | trouble met => exact absurd met orderly.untroubled

theorem outcome_aftermath {processor : Processor} {own : List MergeValue} (orderly : reader.Orderly)
    (effects : processor.effects op = .ok own) (money : MoneyOnly own)
    (charged : op.charges reader = .ok charges)
    (affordable : ∀ charge ∈ charges, checkCharge reader charge = .ok ()) :
    Aftermath reader own charges (outcome processor Context.active op reader).executed := by
  have fees : op.feeValues reader = settleCharges reader charges := by
    unfold Operation.feeValues
    rw [charged]
    rfl
  rcases settleCharges_received orderly affordable with settled |
    ⟨charge, listed, receiver, received, absent, settled⟩
  · have worked : outcome processor Context.active op reader = (do
        checkBalances reader (own ++ charges.flatMap feeEffects)
        return own ++ charges.flatMap feeEffects) := by
      unfold outcome typeAndFeeValues
      rw [effects, fees, settled]
      rfl
    rw [worked]
    cases balanced : checkBalances reader (own ++ charges.flatMap feeEffects) with
    | ok => exact .accepted balanced
    | error failure =>
      cases checkBalances_shortfall (money.withFees charges) failure balanced with
      | short message => exact .short balanced
      | overflow overflow => exact .overflow balanced
      | trouble met => exact absurd met orderly.untroubled
  · have stopped : outcome processor Context.active op reader =
        .error (.rejected ⟨.stateNotFound, s!"account {receiver} not found"⟩) := by
      unfold outcome typeAndFeeValues
      rw [effects, fees, settled]
      rfl
    rw [stopped]
    exact .unreceived listed received absent

end Checked

-- What an admitted operation writes and what it is charged are settled; its execution,
-- at any time later in the session, can only end in the ways that these leave open.
theorem admitted_aftermath {settings : Settings} (standard : settings.registry = Registry.standard)
    (byHint : settings.dispatch.ByHint) {e e' : Engine} (path : Engine.Reachable settings e)
    (path' : Engine.Reachable settings e') {height : Height} {proposal : Option Proposal}
    {s s' : Session} (live : s.Live settings height proposal) (live' : s'.Live settings height proposal)
    {reader : Reader} (orderly : reader.Orderly) {ctx : Context} {op : Operation}
    (admitted : (e.preProcess s ctx op reader).answer = .ok .admitted) :
    ∃ processor own charges, settings.server height proposal reader op = .ok processor ∧
      processor.effects op = .ok own ∧ op.charges reader = .ok charges ∧
      Aftermath reader own charges (e'.process s' Context.active op reader).answer := by
  obtain ⟨_, _, answer⟩ := live.preProcess_answer path ctx op reader
  obtain ⟨_, passed⟩ := admission_admitted.mp (answer.symm.trans admitted)
  obtain ⟨_, stands, _⟩ := bind_ok.mp passed
  obtain ⟨_, entry, processor, served, permitted⟩ := Settings.standing_parts stands
  obtain ⟨_, _, checked⟩ := checkEntry_parts entry
  obtain ⟨charges, charged, affordable⟩ := checkCapabilities_charges checked
  -- Whoever permits the operation serves its type, and so works out its effects.
  obtain ⟨kind, serving, _⟩ := Settings.server_standard standard byHint served
  have bound := Settings.server_bound served
  have typed := Processor.permit_kind serving permitted
  rw [Processor.permit_own serving bound, if_pos typed] at permitted
  obtain ⟨own, written⟩ := Operation.ownEffects_succeed checked permitted typed
  have effects : processor.effects op = .ok own := by
    rw [Processor.effects_own serving bound, if_pos typed]
    exact written
  have executed : settings.execution height proposal Context.active op reader =
      outcome processor Context.active op reader := by
    unfold Settings.execution
    rw [served]
    rfl
  refine ⟨processor, own, charges, served, effects, charged, ?_⟩
  rw [live'.process_answer path', executed]
  exact outcome_aftermath orderly effects (Fact.ownEffects_money typed written) charged affordable

namespace Sample

def unreceived : Store :=
  store [coins (.fixed dave (decimal 1 0)), held alice key, held bob key,
    .balance alice (amount 100 0)]

def entered : Session := (engine.preProcess started Context.active plain unreceived.reader).session

end Sample

set_option maxRecDepth 100000 in
theorem unreceived_fee_aftermath :
    (Sample.engine.preProcess Sample.started Context.active Sample.plain
        Sample.unreceived.reader).answer = .ok .admitted ∧
      (Sample.engine.process Sample.entered Context.active Sample.plain
        Sample.unreceived.reader).answer =
          .ok (.rejected ⟨.stateNotFound, "account dave01 not found"⟩) ∧
      ∃ processor own charges,
        Sample.settings.server ⟨2⟩ none Sample.unreceived.reader Sample.plain = .ok processor ∧
        processor.effects Sample.plain = .ok own ∧
        Sample.plain.charges Sample.unreceived.reader = .ok charges ∧
        Aftermath Sample.unreceived.reader own charges
          (Sample.engine.process Sample.entered Context.active Sample.plain
            Sample.unreceived.reader).answer := by
  have path : Engine.Reachable Sample.settings Sample.engine := .new 1 1
  have live : Sample.started.Live Sample.settings ⟨2⟩ none := .checkout path
  have later : Sample.entered.Live Sample.settings ⟨2⟩ none := live.preProcess path _ _ _
  have orderly : Sample.unreceived.reader.Orderly := Store.genesis_orderly
  have admitted : (Sample.engine.preProcess Sample.started Context.active Sample.plain
      Sample.unreceived.reader).answer = .ok .admitted := by decide +kernel
  refine ⟨admitted, by decide +kernel, ?_⟩
  exact admitted_aftermath rfl DispatchRule.registry_byHint path path live later orderly admitted

end SignedLedger

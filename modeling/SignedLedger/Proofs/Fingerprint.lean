import SignedLedger.Proofs.Operation.Signs
import SignedLedger.Proofs.Session.Registry

-- How far a digest tells operations apart. Hint and digest together fix what is asked
-- for and who has signed it. They leave the extensions open, and with them whether the
-- operation is let in, and which account its fees are taken from; what it writes apart
-- from that, and what the fees come to, is fixed.
namespace SignedLedger
open Check

def Operation.feePayer? (op : Operation) : Option Address := op.fact.feeTerms?.map op.payer

def FeeCharge.billedTo (payer? : Option Address) (charge : FeeCharge) : FeeCharge :=
  { charge with payer := payer?.getD charge.payer }

section Charges
variable {reader : Reader} {payer other : Address} {op op' : Operation}

theorem chargeIn_billed {currency : Currency} {items : List Decimal} :
    chargeIn reader other currency items =
      Option.map (FeeCharge.billedTo (some other)) <$> chargeIn reader payer currency items := by
  unfold chargeIn
  simp only [map_bind]
  apply bind_congr
  intro design
  apply bind_congr
  intro _
  apply bind_congr
  intro fee
  split
  · rfl
  · rfl

theorem chargesIn_billed {base : FeeBase} :
    chargesIn reader other base =
      List.map (FeeCharge.billedTo (some other)) <$> chargesIn reader payer base := by
  induction base with
  | nil => rfl
  | cons entry rest ih =>
    unfold chargesIn
    rw [ih, chargeIn_billed]
    simp only [map_bind, bind_map_left]
    apply bind_congr
    intro charge
    apply bind_congr
    intro charges
    simp only [map_pure]
    rw [List.map_append]
    cases charge with
    | none => rfl
    | some charge => rfl

theorem Operation.charges_billed (facts : op.fact = op'.fact) :
    op'.charges reader =
      List.map (FeeCharge.billedTo op'.feePayer?) <$> op.charges reader := by
  unfold charges feePayer?
  rw [facts]
  cases op'.fact.feeTerms? with
  | none => rfl
  | some terms => exact chargesIn_billed

theorem Operation.charges_same (facts : op.fact = op'.fact) (payers : op.feePayer? = op'.feePayer?) :
    op.charges reader = op'.charges reader := by
  rw [charges_billed facts, ← payers]
  exact charges_billed rfl

end Charges

-- Processors that answer for the fact of an operation, whoever signs it and pays for it, as
-- those of the built-in types do.
def Service.ByFact (service : Service) : Prop :=
  ∀ reader {op op' : Operation}, op.fact = op'.fact →
    service.permit reader op = service.permit reader op' ∧
      service.effects reader op = service.effects reader op'

def ProcessorKind.ByFact : ProcessorKind → Prop
  | .builtIn _ => True
  | .custom service => service.ByFact

def Maker.ByFact : Maker → Prop
  | .builtIn _ => True
  | .custom create => ∀ height told reader service,
      create height told reader = .ok service → service.ByFact

def Registry.ByFact (registry : Registry) : Prop :=
  ∀ proposal hint maker told, registry.choose proposal hint = .ok (maker, told) → maker.ByFact

theorem Registry.standard_byFact : standard.ByFact := by
  intro proposal hint maker told chosen
  obtain ⟨kind, rfl, _⟩ := standard_choose chosen
  trivial

section Execution
variable {settings : Settings} {height : Height} {proposal : Option Proposal} {ctx : Context}
  {reader : Reader} {op op' : Operation} {processor : Processor}

theorem Processor.effects_same (byFact : processor.kind.ByFact) (facts : op.fact = op'.fact) :
    processor.effects op = processor.effects op' := by
  unfold effects
  rw [facts]
  split
  all_goals try rfl
  rename_i service _ custom
  rw [custom] at byFact
  exact bind_congr fun reader => (byFact reader facts).2

theorem Processor.permit_same (byFact : processor.kind.ByFact) (facts : op.fact = op'.fact) :
    processor.permit op = processor.permit op' := by
  unfold permit
  rw [facts]
  split
  all_goals try rfl
  rename_i service _ custom
  rw [custom] at byFact
  exact bind_congr fun reader => (byFact reader facts).1

theorem Settings.server_byFact (byHint : settings.ByHint) (byFact : settings.registry.ByFact)
    (served : settings.server height proposal reader op = .ok processor) :
    processor.kind.ByFact := by
  obtain ⟨maker, told, kind, choice, made, rfl⟩ := server_serving served
  have chosen := byFact _ _ _ _ (byHint.dispatch.chosen choice)
  cases made with
  | builtIn kind => trivial
  | custom made => exact chosen _ _ _ _ made

theorem Settings.server_same (byHint : settings.ByHint) (hints : op.hint = op'.hint) :
    settings.server height proposal reader op = settings.server height proposal reader op' := by
  obtain ⟨serves, exact⟩ := byHint.dispatch
  unfold server find
  rw [exact, exact, hints]

-- The stages of an admission that look at signs do not look at their times.
theorem permission_undated (byFact : processor.kind.ByFact) :
    permission settings processor ctx op.undated reader =
      permission settings processor ctx op reader := by
  have permits (r : Reader) :
      (processor.reading r).permit op.undated = (processor.reading r).permit op :=
    Processor.permit_same byFact rfl
  have permit : processor.permit op.undated = processor.permit op :=
    Processor.permit_same byFact rfl
  unfold permission
  rw [checkEntry_undated]
  simp only [permits, permit]

theorem Settings.standing_undated (byHint : settings.ByHint) (byFact : settings.registry.ByFact) :
    settings.standing height proposal ctx op.undated reader =
      settings.standing height proposal ctx op reader := by
  have same : settings.server height proposal reader op.undated =
      settings.server height proposal reader op := server_same byHint rfl
  unfold standing
  rw [checkForm_undated, same]
  refine bind_congr fun _ => bind_congr fun _ => lift_bind_congr fun processor served => ?_
  exact permission_undated (server_byFact byHint byFact served)

theorem typeAndFeeValues_same (byFact : processor.kind.ByFact) (facts : op.fact = op'.fact)
    (payers : op.feePayer? = op'.feePayer?) :
    typeAndFeeValues processor op = typeAndFeeValues processor op' := by
  funext reader
  unfold typeAndFeeValues Operation.feeValues
  rw [Processor.effects_same byFact facts, Operation.charges_same facts payers]

theorem outcome_same (byFact : processor.kind.ByFact) (facts : op.fact = op'.fact)
    (payers : op.feePayer? = op'.feePayer?) :
    outcome processor ctx op reader = outcome processor ctx op' reader := by
  have again (r : Reader) :
      typeAndFeeValues (processor.reading r) op = typeAndFeeValues (processor.reading r) op' :=
    typeAndFeeValues_same byFact facts payers
  unfold outcome
  simp only [typeAndFeeValues_same byFact facts payers, again]

theorem Settings.execution_same (byHint : settings.ByHint) (byFact : settings.registry.ByFact)
    (hints : op.hint = op'.hint) (facts : op.fact = op'.fact)
    (payers : op.feePayer? = op'.feePayer?) :
    settings.execution height proposal ctx op reader =
      settings.execution height proposal ctx op' reader := by
  unfold execution
  rw [server_same byHint hints]
  refine bind_congr fun _ => lift_bind_congr fun processor served => ?_
  exact outcome_same (server_byFact byHint byFact served) facts payers

theorem Settings.execution_written {values : List MergeValue}
    (done : settings.execution height proposal ctx op reader = .ok values) :
    ∃ processor, settings.server height proposal reader op = .ok processor ∧
      typeAndFeeValues processor op reader = .ok values := by
  unfold execution outcome at done
  simp only [bind_ok, lift_ok, pure_ok] at done
  obtain ⟨_, _, processor, served, written, worked, _, _, _, _, rfl⟩ := done
  exact ⟨processor, served, worked⟩

theorem Settings.execution_billed {values values' : List MergeValue} (byHint : settings.ByHint)
    (byFact : settings.registry.ByFact) (hints : op.hint = op'.hint) (facts : op.fact = op'.fact)
    (done : settings.execution height proposal ctx op reader = .ok values)
    (done' : settings.execution height proposal ctx op' reader = .ok values') :
    ∃ (own : List MergeValue) (charges : List FeeCharge),
      op.charges reader = .ok charges ∧ values = own ++ charges.flatMap feeEffects ∧
      values' = own ++ (charges.map (FeeCharge.billedTo op'.feePayer?)).flatMap feeEffects := by
  obtain ⟨processor, served, written⟩ := execution_written done
  obtain ⟨processor', served', written'⟩ := execution_written done'
  rw [server_same byHint hints, served'] at served
  cases served
  obtain ⟨own, charges, effects, charged, rfl⟩ := typeAndFeeValues_parts written
  obtain ⟨own', charges', effects', charged', rfl⟩ := typeAndFeeValues_parts written'
  rw [Processor.effects_same (server_byFact byHint byFact served') facts, effects'] at effects
  cases effects
  rw [Operation.charges_billed facts, charged] at charged'
  cases charged'
  exact ⟨own, charges, charged, rfl, rfl⟩

end Execution

def Engine.answers (e : Engine) (height : Height) (proposal : Option Proposal)
    (entering executing : Context) (op : Operation) (reader : Reader) :
    Except Fault Admission × Except Fault Outcome :=
  let (fresh, opened) := e.checkout height proposal
  let entered := opened.preProcess fresh entering op reader
  (entered.answer, (entered.engine.process entered.session executing op reader).answer)

section Answers
variable {settings : Settings} {e : Engine} {height : Height} {proposal : Option Proposal}
  {entering executing : Context} {op op' : Operation} {reader : Reader}

theorem Engine.answers_exact (path : Engine.Reachable settings e) :
    e.answers height proposal entering executing op reader =
      ((settings.standing height proposal entering op reader >>= fun _ =>
          (settings.duplication.check Tracker.empty op).1).admission,
        (settings.execution height proposal executing op reader).executed) := by
  have path' := path.checkout height proposal
  have fresh : (e.checkout height proposal).1.Live settings height proposal := .checkout path
  obtain ⟨tracker, held, entered⟩ := fresh.preProcess_answer path' entering op reader
  rw [Engine.checkout_fresh (Engine.reachable_clean path)] at held
  cases held
  have later := path'.preProcess (e.checkout height proposal).1 entering op reader
  have executed := (fresh.preProcess path' entering op reader).process_answer later executing op
    reader
  exact Prod.ext entered executed

theorem Operation.undated_same (hints : op.hint = op'.hint) (facts : op.fact = op'.fact)
    (signs : op.signs.map Sign.undated = op'.signs.map Sign.undated)
    (extensions : op.extensions = op'.extensions) : op.undated = op'.undated := by
  unfold undated
  rw [hints, facts, signs, extensions]

theorem DuplicationRule.ByHint.undated {rule : DuplicationRule} (byHint : rule.ByHint)
    (tracker : Tracker) : rule.check tracker op.undated = rule.check tracker op := by
  obtain ⟨minds, exact⟩ := byHint
  have checked : checkDuplication tracker op.undated = checkDuplication tracker op := rfl
  have hint : op.undated.hint = op.hint := rfl
  rw [exact, exact, hint, checked]

theorem Engine.answers_undated (path : Engine.Reachable settings e) (byHint : settings.ByHint)
    (byFact : settings.registry.ByFact) :
    e.answers height proposal entering executing op.undated reader =
      e.answers height proposal entering executing op reader := by
  have executed : settings.execution height proposal executing op.undated reader =
      settings.execution height proposal executing op reader :=
    Settings.execution_same byHint byFact rfl rfl rfl
  rw [answers_exact path, answers_exact path, Settings.standing_undated byHint byFact,
    byHint.duplication.undated, executed]

theorem Engine.answers_accepted (path : Engine.Reachable settings e) {values : List MergeValue} :
    (e.answers height proposal entering executing op reader).2 = .ok (.accepted values) ↔
      settings.execution height proposal executing op reader = .ok values := by
  rw [answers_exact path]
  exact executed_accepted

end Answers

-- Operations with one hint and one digest have one fact. With equal extensions they get
-- the same answers; without, still the same ones about what they write, as long as one
-- account pays, and otherwise what they write differs in the payer of the fees only.
theorem digest_fixes_outcome {settings : Settings} {e e' : Engine}
    (path : Engine.Reachable settings e) (path' : Engine.Reachable settings e')
    (byHint : settings.ByHint) (byFact : settings.registry.ByFact) {height : Height}
    {proposal : Option Proposal} {entering executing : Context} {reader : Reader}
    {op op' : Operation} (builtIn : op.fact.kind?.isSome = true)
    (builtIn' : op'.fact.kind?.isSome = true) (sized : op.Sized) (sized' : op'.Sized)
    (factsApart : Digest.Separates op.fact.encode op'.fact.encode)
    (apart : Digest.Separates op.encode op'.encode) (hints : op.hint = op'.hint)
    (digests : op.digest = op'.digest) :
    let answers := e.answers height proposal entering executing op reader
    let answers' := e'.answers height proposal entering executing op' reader
    op.fact = op'.fact ∧
      (op.extensions = op'.extensions → answers = answers' ∧ op.feePayer? = op'.feePayer?) ∧
      (op.feePayer? = op'.feePayer? → answers.2 = answers'.2) ∧
      ∀ values values', answers.2 = .ok (.accepted values) →
        answers'.2 = .ok (.accepted values') →
        ∃ (own : List MergeValue) (charges : List FeeCharge),
          op.charges reader = .ok charges ∧ values = own ++ charges.flatMap feeEffects ∧
          values' = own ++ (charges.map (FeeCharge.billedTo op'.feePayer?)).flatMap feeEffects := by
  intro answers answers'
  obtain ⟨facts, signs⟩ :=
    Operation.digest_covers builtIn builtIn' sized sized' factsApart apart digests
  refine ⟨facts, fun extensions => ⟨?_, ?_⟩, fun payers => ?_, fun values values' done done' => ?_⟩
  · have same : op.undated = op'.undated := Operation.undated_same hints facts signs extensions
    calc answers = e.answers height proposal entering executing op.undated reader :=
          (Engine.answers_undated path byHint byFact).symm
      _ = e'.answers height proposal entering executing op'.undated reader := by
          rw [same, Engine.answers_exact path, Engine.answers_exact path']
      _ = answers' := Engine.answers_undated path' byHint byFact
  · unfold Operation.feePayer? Operation.payer
    rw [facts, extensions]
  · have writes : settings.execution height proposal executing op reader =
        settings.execution height proposal executing op' reader :=
      Settings.execution_same byHint byFact hints facts payers
    rw [show answers = _ from Engine.answers_exact path,
      show answers' = _ from Engine.answers_exact path', writes]
  · exact Settings.execution_billed byHint byFact hints facts ((Engine.answers_accepted path).mp done)
      ((Engine.answers_accepted path').mp done')

namespace Sample

def tolls : Store :=
  store [coins (.fixed carol (decimal 1 0)), held alice key, held bob key, held carol key,
    .balance alice (amount 100 0), .balance bob (amount 5 0)]

def settled : Operation := { plain with extensions := ⟨none, some bob, none⟩ }

def proxied : Operation := { plain with extensions := ⟨none, none, some bob⟩ }

def paidBy (payer : Address) : List MergeValue :=
  [.debit alice (amount 10 0), .credit bob (amount 10 0), .debit payer (amount 1 0),
    .credit carol (amount 1 0)]

def vouched (signer : Address) : Operation :=
  signed .transfer
    (.declared { Declared.bare FactKind.transfer.factHint [1] with signer := some signer })
    Extensions.none

def tollAnswers (op : Operation) : Except Fault Admission × Except Fault Outcome :=
  engine.answers ⟨2⟩ none Context.active Context.active op tolls.reader

end Sample

set_option maxRecDepth 100000 in
theorem settled_run :
    Sample.tollAnswers Sample.plain = (.ok .admitted, .ok (.accepted (Sample.paidBy Sample.alice))) ∧
      Sample.tollAnswers Sample.settled =
        (.ok .admitted, .ok (.accepted (Sample.paidBy Sample.bob))) := by
  decide +kernel

set_option maxRecDepth 100000 in
theorem equal_digests_other_outcomes :
    (Sample.plain.hint = Sample.settled.hint ∧ Sample.plain.encode = Sample.settled.encode ∧
      (Sample.tollAnswers Sample.plain).2 ≠ (Sample.tollAnswers Sample.settled).2) ∧
    (Sample.plain.hint = Sample.proxied.hint ∧ Sample.plain.encode = Sample.proxied.encode ∧
      (Sample.tollAnswers Sample.plain).1 = .ok .admitted ∧
      (Sample.tollAnswers Sample.proxied).1 =
        .ok (.rejected ⟨.invalidFact, "proxy payer bob01 without settlement"⟩)) ∧
    ((Sample.vouched Sample.alice).hint = (Sample.vouched Sample.dave).hint ∧
      (Sample.vouched Sample.alice).encode = (Sample.vouched Sample.dave).encode ∧
      (Sample.tollAnswers (Sample.vouched Sample.alice)).1 =
        .error (.factMismatch .transfer FactKind.transfer.factHint) ∧
      (Sample.tollAnswers (Sample.vouched Sample.dave)).1 =
        .ok (.rejected ⟨.stateNotFound, "account dave01 not found"⟩)) := by
  obtain ⟨plain, settled⟩ := settled_run
  refine ⟨⟨rfl, rfl, ?_⟩, ⟨rfl, rfl, ?_, ?_⟩, rfl, rfl, ?_, ?_⟩
  · rw [plain, settled]
    decide +kernel
  · rw [plain]
  · decide +kernel
  · decide +kernel
  · decide +kernel

theorem settled_differs_in_payer :
    (Sample.plain.hint = Sample.settled.hint ∧ Sample.plain.digest = Sample.settled.digest ∧
      (Sample.tollAnswers Sample.plain).2 = .ok (.accepted (Sample.paidBy Sample.alice)) ∧
      (Sample.tollAnswers Sample.settled).2 = .ok (.accepted (Sample.paidBy Sample.bob))) ∧
    ∃ (own : List MergeValue) (charges : List FeeCharge),
      Sample.plain.charges Sample.tolls.reader = .ok charges ∧
      Sample.paidBy Sample.alice = own ++ charges.flatMap feeEffects ∧
      Sample.paidBy Sample.bob =
        own ++ (charges.map (FeeCharge.billedTo (some Sample.bob))).flatMap feeEffects := by
  have path : Engine.Reachable Sample.settings Sample.engine := .new 1 1
  have byHint : Sample.settings.ByHint :=
    ⟨DuplicationRule.claims_byHint, DispatchRule.registry_byHint⟩
  have printed : (⟨0, 0⟩ : Instant).text.utf8ByteSize < Binary.sizeBound := by decide +kernel
  have sized : Sample.plain.Sized := by
    simp only [Sample.plain, Sample.pay, Sample.signed, Operation.Sized, Fact.Sized, Payment.Sized,
      Sign.Sized, List.length_singleton, List.forall_mem_singleton, printed]
    decide
  have sized' : Sample.settled.Sized := sized
  obtain ⟨plain, settled⟩ := settled_run
  have accepted := congrArg Prod.snd plain
  have accepted' := congrArg Prod.snd settled
  obtain ⟨_, _, _, billed⟩ := digest_fixes_outcome path path byHint Registry.standard_byFact
    (by rfl) (by rfl) sized sized' (fun _ => rfl) (fun _ => rfl) rfl rfl
  exact ⟨⟨rfl, rfl, accepted, accepted'⟩, billed _ _ accepted accepted'⟩

end SignedLedger

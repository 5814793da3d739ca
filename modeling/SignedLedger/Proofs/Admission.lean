import SignedLedger.Proofs.Conflicts
import SignedLedger.Proofs.Session.Standing

-- Admission has no order. Whether an operation stands is the same at every moment of a
-- session, and a list of operations is admitted exactly when they all stand and hold no
-- claim twice between them.
namespace SignedLedger
open Check

theorem Operation.mem_claims {op : Operation} {claim : Claim} :
    claim ∈ op.claims ↔ op.hint.isExempt = false ∧ op.fact.Claims claim := by
  unfold Operation.claims Fact.Claims
  cases op.hint.isExempt with
  | true => simp
  | false =>
    cases op.fact.claims? with
    | none => simp
    | some set => simp

def Operation.Clashes (one other : Operation) : Prop :=
  one.hint.isExempt = false ∧ other.hint.isExempt = false ∧
    ∃ claim, one.fact.Claims claim ∧ other.fact.Claims claim

abbrev Entry := Context × Operation

def Entry.Stands (settings : Settings) (height : Height) (proposal : Option Proposal)
    (reader : Reader) (entry : Entry) : Prop :=
  settings.standing height proposal entry.1 entry.2 reader = .ok () ∧ entry.2.Claimable

def Entry.claims (entry : Entry) : List Claim := entry.2.claims

def entering (reader : Reader) (entries : List Entry) : List Request :=
  entries.map fun entry => .enter entry.1 entry.2 reader

def Session.claimed (s : Session) : List Claim := (s.tracker.map Tracker.claimed).getD []

structure Desk.Sits (settings : Settings) (height : Height) (proposal : Option Proposal)
    (claimed : List Claim) (d : Desk) : Prop where
  ready : d.Ready
  settings_eq : d.engine.settings = settings
  height_eq : d.session.height = height
  proposal_eq : d.session.proposal = proposal
  tracked : ∃ tracker, d.session.tracker = some tracker ∧ tracker.claimed = claimed

namespace Desk
variable {settings : Settings} {height : Height} {proposal : Option Proposal} {reader : Reader}
  {claimed : List Claim} {d : Desk} {entry one other : Entry} {entries : List Entry}

def replies (d : Desk) (requests : List Request) : List Reply :=
  (d.transcript requests).map Prod.snd

def AdmitsAll (d : Desk) (requests : List Request) : Prop :=
  ∀ reply ∈ d.replies requests, reply = .admission (.ok .admitted)

theorem checkout_sits {e : Engine} (path : Engine.Reachable settings e) (height : Height)
    (proposal : Option Proposal) : (checkout e height proposal).Sits settings height proposal [] := by
  have clean := Engine.reachable_clean path
  refine ⟨checkout_ready clean height proposal,
    Engine.reachable_settings (.checkout path height proposal), ?_, ?_, Tracker.empty, ?_, rfl⟩
  · simp only [checkout, Engine.checkout_fresh clean]
  · simp only [checkout, Engine.checkout_fresh clean]
  · simp only [checkout, Engine.checkout_fresh clean]

theorem Sits.distinct (sits : d.Sits settings height proposal claimed) : claimed.Nodup := by
  obtain ⟨tracker, _, rfl⟩ := sits.tracked
  exact tracker.distinct

theorem Sits.kept (sits : d.Sits settings height proposal claimed) {request : Request}
    {tracker : Tracker} (tracked : (d.serve request).2.session.tracker = some tracker) :
    (d.serve request).2.Sits settings height proposal tracker.claimed :=
  have kept := d.serve_kept request
  ⟨serve_ready sits.ready request, (serve_settings d request).trans sits.settings_eq,
    kept.height_eq.trans sits.height_eq, kept.proposal_eq.trans sits.proposal_eq, tracker, tracked,
    rfl⟩

-- One admission, exactly, with what the session holds from then on.
theorem Sits.enter (rule : settings.duplication = .claims)
    (sits : d.Sits settings height proposal claimed) (entry : Entry) (reader : Reader) :
    let served := d.serve (.enter entry.1 entry.2 reader)
    let admissible := entry.Stands settings height proposal reader ∧ (claimed ++ entry.claims).Nodup
    (admissible ∧ served.1 = .admission (.ok .admitted) ∧
        served.2.Sits settings height proposal (claimed ++ entry.claims)) ∨
      (¬ admissible ∧ served.1 ≠ .admission (.ok .admitted) ∧
        (entry.Stands settings height proposal reader → ∃ reason, reason.kind = .duplicated ∧
          served.1 = .admission (.ok (.rejected reason)))) := by
  intro served admissible
  have kept {tracker : Tracker} (left : served.2.session.tracker = some tracker) :
      served.2.Sits settings height proposal tracker.claimed := sits.kept left
  obtain ⟨tracker, tracked, rfl⟩ := id sits.tracked
  have entered := serve_enter sits.ready tracked entry.1 entry.2 reader
  rw [sits.settings_eq, sits.height_eq, sits.proposal_eq, rule] at entered
  -- Of what stands only the claims decide; what does not stand never comes to their check.
  rcases entered with ⟨stands, answer, left⟩ | ⟨failure, refused, answer, _⟩
  · rcases checkDuplication_cases tracker entry.2 with
      ⟨claimable, distinct, new, taken, grown⟩ | ⟨clash, failure, refused, duplicated⟩
    · have checked : DuplicationRule.claims.check tracker entry.2 = (.ok (), new) := taken
      rw [checked] at answer left
      refine .inl ⟨⟨⟨stands, claimable⟩, distinct⟩, answer, ?_⟩
      rw [Entry.claims, ← grown]
      exact kept left
    · have checked : DuplicationRule.claims.check tracker entry.2 = (.error failure, tracker) :=
        refused
      rw [checked] at answer
      refine .inr ⟨fun both => clash ⟨both.1.2, both.2⟩, ?_, fun fine => ?_⟩
      · rw [show served.1 = _ from answer, ne_eq, Reply.admission.injEq, Check.admission_admitted]
        simp
      · obtain ⟨reason, rfl, kind⟩ := duplicated fine.2
        exact ⟨reason, kind, answer⟩
  · have other : ¬ entry.Stands settings height proposal reader := by
      rintro ⟨stands, _⟩
      rw [refused] at stands
      cases stands
    refine .inr ⟨fun both => other both.1, ?_, fun stands => absurd stands other⟩
    rw [show served.1 = _ from answer, ne_eq, Reply.admission.injEq, Check.admission_admitted]
    simp

theorem Sits.admits (rule : settings.duplication = .claims)
    (sits : d.Sits settings height proposal claimed) :
    (d.serve (.enter entry.1 entry.2 reader)).1 = .admission (.ok .admitted) ↔
      entry.Stands settings height proposal reader ∧ (claimed ++ entry.claims).Nodup := by
  rcases sits.enter rule entry reader with ⟨admissible, admitted, _⟩ | ⟨other, refused, _⟩
  · exact iff_of_true admitted admissible
  · exact iff_of_false refused other

theorem Sits.admitted (rule : settings.duplication = .claims)
    (sits : d.Sits settings height proposal claimed)
    (stands : entry.Stands settings height proposal reader)
    (distinct : (claimed ++ entry.claims).Nodup) :
    (d.serve (.enter entry.1 entry.2 reader)).2.Sits settings height proposal
      (claimed ++ entry.claims) := by
  rcases sits.enter rule entry reader with ⟨_, _, left⟩ | ⟨other, _⟩
  · exact left
  · exact absurd ⟨stands, distinct⟩ other

theorem replies_cons (d : Desk) (request : Request) (rest : List Request) :
    d.replies (request :: rest) = (d.serve request).1 :: (d.serve request).2.replies rest := rfl

theorem admitsAll_cons (d : Desk) (request : Request) (rest : List Request) :
    d.AdmitsAll (request :: rest) ↔
      (d.serve request).1 = .admission (.ok .admitted) ∧ (d.serve request).2.AdmitsAll rest := by
  unfold AdmitsAll
  rw [replies_cons, List.forall_mem_cons]

-- All of a list, exactly. The claims held on the way are those of the entries so far.
theorem Sits.admits_all (rule : settings.duplication = .claims)
    (sits : d.Sits settings height proposal claimed) :
    d.AdmitsAll (entering reader entries) ↔
      (∀ entry ∈ entries, entry.Stands settings height proposal reader) ∧
        (claimed ++ entries.flatMap Entry.claims).Nodup := by
  induction entries generalizing d claimed with
  | nil => simpa [AdmitsAll, replies, transcript, entering] using sits.distinct
  | cons entry rest ih =>
    rw [entering, List.map_cons, ← entering, admitsAll_cons, sits.admits rule, List.forall_mem_cons,
      List.flatMap_cons, ← List.append_assoc]
    constructor
    · rintro ⟨⟨stands, distinct⟩, later⟩
      obtain ⟨others, whole⟩ := (ih (sits.admitted rule stands distinct)).mp later
      exact ⟨⟨stands, others⟩, whole⟩
    · rintro ⟨⟨stands, others⟩, whole⟩
      have distinct := whole.of_append_left
      exact ⟨⟨stands, distinct⟩, (ih (sits.admitted rule stands distinct)).mpr ⟨others, whole⟩⟩

theorem Sits.after_all (rule : settings.duplication = .claims)
    (sits : d.Sits settings height proposal claimed)
    (stand : ∀ entry ∈ entries, entry.Stands settings height proposal reader)
    (distinct : (claimed ++ entries.flatMap Entry.claims).Nodup) :
    (d.after (entering reader entries)).Sits settings height proposal
      (claimed ++ entries.flatMap Entry.claims) := by
  induction entries generalizing d claimed with
  | nil => simpa [after, entering] using sits
  | cons entry rest ih =>
    rw [List.flatMap_cons, ← List.append_assoc] at distinct ⊢
    have next := sits.admitted rule (stand entry List.mem_cons_self) distinct.of_append_left
    exact ih next (fun other later => stand other (List.mem_cons_of_mem _ later)) distinct

theorem Sits.claimed_eq (sits : d.Sits settings height proposal claimed) :
    d.session.claimed = claimed := by
  obtain ⟨tracker, tracked, rfl⟩ := sits.tracked
  rw [Session.claimed, tracked]
  rfl

theorem Sits.duplicated (rule : settings.duplication = .claims)
    (sits : d.Sits settings height proposal claimed)
    (stands : entry.Stands settings height proposal reader) {claim : Claim}
    (claims : claim ∈ entry.claims) (held : claim ∈ claimed) :
    ∃ reason, reason.kind = .duplicated ∧
      (d.serve (.enter entry.1 entry.2 reader)).1 = .admission (.ok (.rejected reason)) := by
  rcases sits.enter rule entry reader with ⟨⟨_, distinct⟩, _⟩ | ⟨_, _, duplicated⟩
  · exact absurd rfl ((List.nodup_append.mp distinct).2.2 claim held claim claims)
  · exact duplicated stands

theorem Sits.pair_clashes (rule : settings.duplication = .claims)
    (sits : d.Sits settings height proposal [])
    (stands : one.Stands settings height proposal reader) (distinct : one.claims.Nodup)
    (stands' : other.Stands settings height proposal reader) (clash : one.2.Clashes other.2) :
    ∃ reason, reason.kind = .duplicated ∧
      d.replies (entering reader [one, other]) =
        [.admission (.ok .admitted), .admission (.ok (.rejected reason))] := by
  obtain ⟨plain, plain', claim, claims, claims'⟩ := clash
  have next := sits.admitted rule stands distinct
  obtain ⟨reason, kind, refused⟩ := next.duplicated rule stands'
    (Operation.mem_claims.mpr ⟨plain', claims'⟩) (Operation.mem_claims.mpr ⟨plain, claims⟩)
  refine ⟨reason, kind, ?_⟩
  rw [entering, List.map_cons, List.map_singleton, replies_cons, replies_cons, refused,
    (sits.admits rule).mpr ⟨stands, distinct⟩]
  rfl

theorem Sits.pair_apart (rule : settings.duplication = .claims)
    (sits : d.Sits settings height proposal [])
    (stands : one.Stands settings height proposal reader) (distinct : one.claims.Nodup)
    (stands' : other.Stands settings height proposal reader) (distinct' : other.claims.Nodup)
    (apart : ¬ one.2.Clashes other.2) : d.AdmitsAll (entering reader [one, other]) := by
  refine (sits.admits_all rule).mpr ⟨by simp [stands, stands'], ?_⟩
  simp only [List.nil_append, List.flatMap_cons, List.flatMap_nil, List.append_nil]
  refine List.nodup_append.mpr ⟨distinct, distinct', fun claim claims again claims' same => ?_⟩
  obtain ⟨plain, claimed⟩ := Operation.mem_claims.mp claims
  obtain ⟨plain', claimed'⟩ := Operation.mem_claims.mp claims'
  exact apart ⟨plain, plain', claim, claimed, same ▸ claimed'⟩

end Desk

theorem Operation.Clashes.symm {one other : Operation} (clash : one.Clashes other) :
    other.Clashes one := by
  obtain ⟨plain, plain', claim, claims, claims'⟩ := clash
  exact ⟨plain', plain, claim, claims', claims⟩

theorem pair_orders {α : Type} {first second one other : α}
    (same : [first, second].Perm [one, other]) :
    (first = one ∧ second = other) ∨ (first = other ∧ second = one) := by
  have member : first ∈ [one, other] := same.subset List.mem_cons_self
  rw [List.mem_pair] at member
  rcases member with rfl | rfl
  · exact .inl ⟨rfl, List.singleton_perm_singleton.mp ((List.perm_cons first).mp same)⟩
  · have swapped := same.trans (List.Perm.swap first one [])
    exact .inr ⟨rfl, List.singleton_perm_singleton.mp ((List.perm_cons first).mp swapped)⟩

section Orders
variable {settings : Settings} {height : Height} {proposal : Option Proposal} {reader : Reader}
  {d d' : Desk}

theorem admitsAll_perm (rule : settings.duplication = .claims)
    (sits : d.Sits settings height proposal []) (sits' : d'.Sits settings height proposal [])
    {entries others : List Entry} (moved : others.Perm entries)
    (admitted : d.AdmitsAll (entering reader entries)) :
    d'.AdmitsAll (entering reader others) ∧
      (d'.after (entering reader others)).session.claimed.Perm
        (d.after (entering reader entries)).session.claimed := by
  obtain ⟨stand, distinct⟩ := (sits.admits_all rule).mp admitted
  rw [List.nil_append] at distinct
  have claims := moved.flatMap_right Entry.claims
  have stand' : ∀ entry ∈ others, entry.Stands settings height proposal reader :=
    fun entry member => stand entry (moved.mem_iff.mp member)
  have distinct' := claims.nodup_iff.mpr distinct
  refine ⟨(sits'.admits_all rule).mpr ⟨stand', distinct'⟩, ?_⟩
  rw [(sits.after_all rule stand distinct).claimed_eq,
    (sits'.after_all rule stand' distinct').claimed_eq]
  exact claims

theorem admitted_alone (rule : settings.duplication = .claims)
    (sits : d.Sits settings height proposal []) {entry : Entry}
    (alone : d.AdmitsAll (entering reader [entry])) :
    entry.Stands settings height proposal reader ∧ entry.claims.Nodup := by
  obtain ⟨stands, distinct⟩ := (sits.admits_all rule).mp alone
  rw [List.flatMap_singleton, List.nil_append] at distinct
  exact ⟨stands entry List.mem_cons_self, distinct⟩

end Orders

-- A list that one fresh session admits is admitted by every fresh session in every
-- order, and the claims held at the end are the same. Of two operations that are each
-- admitted alone, the second is refused as a duplicate when they clash, whichever comes
-- first; else both are admitted.
theorem admission_unordered {settings : Settings} (rule : settings.duplication = .claims)
    {e e' : Engine} (path : Engine.Reachable settings e) (path' : Engine.Reachable settings e')
    (height : Height) (proposal : Option Proposal) (reader : Reader) :
    let desk := Desk.checkout e height proposal
    let desk' := Desk.checkout e' height proposal
    (∀ entries others : List Entry, others.Perm entries →
      desk.AdmitsAll (entering reader entries) →
        desk'.AdmitsAll (entering reader others) ∧
          (desk'.after (entering reader others)).session.claimed.Perm
            (desk.after (entering reader entries)).session.claimed) ∧
      ∀ one other first second : Entry, desk.AdmitsAll (entering reader [one]) →
        desk.AdmitsAll (entering reader [other]) → [first, second].Perm [one, other] →
          (one.2.Clashes other.2 → ∃ reason, reason.kind = .duplicated ∧
            desk'.replies (entering reader [first, second]) =
              [.admission (.ok .admitted), .admission (.ok (.rejected reason))]) ∧
          (¬ one.2.Clashes other.2 → desk'.AdmitsAll (entering reader [first, second])) := by
  intro desk desk'
  have sits : desk.Sits settings height proposal [] := Desk.checkout_sits path height proposal
  have sits' : desk'.Sits settings height proposal [] := Desk.checkout_sits path' height proposal
  refine ⟨fun entries others moved => admitsAll_perm rule sits sits' moved, ?_⟩
  intro one other first second alone alone' order
  obtain ⟨stands, distinct⟩ := admitted_alone rule sits alone
  obtain ⟨stands', distinct'⟩ := admitted_alone rule sits alone'
  rcases pair_orders order with ⟨rfl, rfl⟩ | ⟨rfl, rfl⟩
  · exact ⟨sits'.pair_clashes rule stands distinct stands',
      sits'.pair_apart rule stands distinct stands' distinct'⟩
  · exact ⟨fun clash => sits'.pair_clashes rule stands' distinct' stands clash.symm,
      fun apart => sits'.pair_apart rule stands' distinct' stands distinct fun clash =>
        apart clash.symm⟩

namespace Sample

def twoPurses : Reader :=
  (store [coins .free, held alice key, held bob key, .balance alice (amount 100 0),
    .balance bob (amount 100 0)]).reader

def first : Entry := (Context.active, plain)

def second : Entry := (Context.active, pay alice [⟨bob, [amount 5 0]⟩] Extensions.none)

def third : Entry := (Context.active, pay bob [⟨alice, [amount 5 0]⟩] Extensions.none)

end Sample

set_option maxRecDepth 100000 in
theorem payments_unordered :
    let desk := Desk.checkout Sample.engine ⟨2⟩ none
    (∃ reason, reason.kind = .duplicated ∧
      desk.replies (entering Sample.twoPurses [Sample.second, Sample.first]) =
        [.admission (.ok .admitted), .admission (.ok (.rejected reason))]) ∧
      desk.AdmitsAll (entering Sample.twoPurses [Sample.third, Sample.first]) := by
  have path : Engine.Reachable Sample.settings Sample.engine := .new 1 1
  obtain ⟨_, pairs⟩ := admission_unordered rfl path path ⟨2⟩ none Sample.twoPurses
  have alone : ∀ entry ∈ [Sample.first, Sample.second, Sample.third],
      (Desk.checkout Sample.engine ⟨2⟩ none).AdmitsAll (entering Sample.twoPurses [entry]) := by
    unfold Desk.AdmitsAll
    decide +kernel
  obtain ⟨first, second, third⟩ : _ ∧ _ ∧ _ := by
    simpa only [List.forall_mem_cons, List.not_mem_nil, false_imp_iff, implies_true, and_true]
      using alone
  have clash : Sample.first.2.Clashes Sample.second.2 :=
    ⟨by decide +kernel, by decide +kernel, ⟨.sender, "alice01"⟩,
      ⟨_, rfl, by decide +kernel⟩, ⟨_, rfl, by decide +kernel⟩⟩
  have apart : ¬ Sample.first.2.Clashes Sample.third.2 := by
    rintro ⟨_, _, claim, ⟨set, listed, claims⟩, ⟨set', listed', claims'⟩⟩
    have disjoint : ∀ claim ∈ Sample.first.2.claims, claim ∉ Sample.third.2.claims := by
      decide +kernel
    exact disjoint claim (Operation.mem_claims.mpr ⟨by decide +kernel, set, listed, claims⟩)
      (Operation.mem_claims.mpr ⟨by decide +kernel, set', listed', claims'⟩)
  exact ⟨(pairs _ _ _ _ first second (List.Perm.swap _ _ [])).1 clash,
    (pairs _ _ _ _ first third (List.Perm.swap _ _ [])).2 apart⟩

end SignedLedger

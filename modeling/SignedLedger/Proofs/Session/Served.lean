import SignedLedger.Proofs.Operation.Writes
import SignedLedger.Proofs.Session.Block

-- Both calls about an operation are served by the same processor: it follows from the
-- settings and from the height and the proposal of the session, and it reads from the
-- reader it was asked with. So what was found at the admission holds of the effects.
namespace SignedLedger
open Check

def Settings.server (settings : Settings) (height : Height) (proposal : Option Proposal)
    (reader : Reader) (op : Operation) : Except Fault Processor :=
  (settings.find (Workshop.empty 0) ⟨height, proposal, none, none⟩ op reader).map Prod.fst

section Server
variable {settings : Settings} {height : Height} {proposal : Option Proposal} {reader : Reader}
  {op : Operation} {processor : Processor}

theorem Settings.find_served {w : Workshop} (clean : w.Clean) (settings : Settings) (s : Session)
    (op : Operation) (reader : Reader) :
    (∃ fault, settings.find w s op reader = .error fault ∧
      settings.server s.height s.proposal reader op = .error fault) ∨
    ∃ processor rest, settings.find w s op reader = .ok (processor, rest) ∧
      settings.server s.height s.proposal reader op = .ok processor := by
  have bare : s.height = (⟨s.height, s.proposal, none, none⟩ : Session).height := rfl
  unfold server
  rcases Engine.find_same clean (Workshop.empty_clean 0) bare rfl op reader with
    ⟨fault, refused, refused'⟩ | ⟨processor, rest, rest', taken, taken'⟩
  · rw [refused']
    exact .inl ⟨fault, refused, rfl⟩
  · rw [taken']
    exact .inr ⟨processor, rest, taken, rfl⟩

theorem Settings.find_server {w rest : Workshop} {s : Session} (clean : w.Clean)
    (found : settings.find w s op reader = .ok (processor, rest)) :
    settings.server s.height s.proposal reader op = .ok processor := by
  rcases find_served clean settings s op reader with
    ⟨fault, refused, _⟩ | ⟨_, _, taken, served⟩
  · rw [refused] at found
    cases found
  · rw [taken] at found
    cases found
    exact served

theorem Settings.server_serving
    (served : settings.server height proposal reader op = .ok processor) :
    ∃ maker told kind,
      settings.dispatch.choose settings.registry ⟨height, proposal, reader⟩ op = .ok (maker, told) ∧
      maker.Makes ⟨height, told, reader⟩ kind ∧
      processor = Processor.serving kind height told reader := by
  unfold server at served
  rcases settings.find_decides ⟨height, proposal, none, none⟩ op reader with
    ⟨fault, refused⟩ | ⟨maker, told, kind, chosen, made, taken⟩
  · rw [refused] at served
    cases served
  · rw [taken] at served
    have fresh := (Workshop.take_clean (Workshop.empty_clean 0) kind height told reader).1
    exact ⟨maker, told, kind, chosen, made, (Except.ok.inj served).symm.trans fresh⟩

theorem Settings.server_bound (served : settings.server height proposal reader op = .ok processor) :
    processor.bound.require = .ok reader := by
  obtain ⟨_, _, kind, _, _, rfl⟩ := server_serving served
  cases kind with
  | builtIn k => rfl
  | custom service => rfl

end Server

-- A well-formed built-in operation that the processor serving it has let in, and then
-- what the processor and the fees make of it.
structure Operation.Permitted (settings : Settings) (height : Height) (proposal : Option Proposal)
    (reader : Reader) (op : Operation) (processor : Processor) : Prop where
  builtIn : op.fact.kind?.isSome = true
  valid : op.fact.validate settings.limits = .ok ()
  served : settings.server height proposal reader op = .ok processor
  permitted : processor.permit op = .ok ()

structure Operation.Executed (settings : Settings) (height : Height) (proposal : Option Proposal)
    (reader : Reader) (op : Operation) (processor : Processor) (values : List MergeValue) : Prop
    extends Operation.Permitted settings height proposal reader op processor where
  written : typeAndFeeValues processor op reader = .ok values

theorem Operation.Executed.sets {settings : Settings} {height : Height}
    {proposal : Option Proposal} {reader : Reader} {op : Operation} {processor : Processor}
    {values : List MergeValue}
    (executed : op.Executed settings height proposal reader processor values) :
    (∀ key value, .set key value ∉ values) ∨ op.fact.SetIn reader values :=
  typeAndFeeValues_sets (Settings.server_bound executed.served) executed.builtIn
    executed.permitted executed.written

theorem Operation.Executed.writes {settings : Settings} {height : Height}
    {proposal : Option Proposal} {reader : Reader} {op : Operation} {processor : Processor}
    {values : List MergeValue}
    (executed : op.Executed settings height proposal reader processor values) {key : String}
    {value : StateValue} (set : .set key value ∈ values) :
    ∃ slot : Slot, slot.key = key ∧ op.fact.Writes reader slot value := by
  rcases executed.sets with none | sets
  · exact absurd set (none key value)
  · exact (sets key value).mp set

structure Tally.Served (settings : Settings) (height : Height) (proposal : Option Proposal)
    (reader : Reader) (d : Desk) (t : Tally) : Prop where
  ready : d.Ready
  settings_eq : d.engine.settings = settings
  height_eq : d.session.height = height
  proposal_eq : d.session.proposal = proposal
  waiting : ∀ op ∈ t.waiting, ∃ processor,
    op.Permitted settings height proposal reader processor
  accepted : ∀ entry ∈ t.accepted, ∃ processor,
    entry.1.Executed settings height proposal reader processor entry.2

namespace Desk
variable {settings : Settings} {height : Height} {proposal : Option Proposal} {reader : Reader}
  {d : Desk} {t : Tally} {op : Operation} {ctx : Context}

theorem serve_permitted (ready : d.Ready)
    (asked : Request.Over reader (.enter ctx op reader))
    (admitted : (d.serve (.enter ctx op reader)).1 = .admission (.ok .admitted)) :
    ∃ processor, op.Permitted d.engine.settings d.session.height d.session.proposal reader
      processor := by
  obtain ⟨result, _⟩ := Engine.preProcess_admitted (Reply.admission.inj admitted)
  obtain ⟨_, _, processor, _, _, _, form, found, _, permitted, _⟩ := Engine.runPreProcess_ok result
  exact ⟨processor, asked.2, checkForm_valid form,
    Settings.find_server ready.clean.processors found, permitted⟩

theorem serve_executed {processor : Processor} {values : List MergeValue} (ready : d.Ready)
    (known : op.Permitted d.engine.settings d.session.height d.session.proposal reader processor)
    (accepted : (d.serve (.process ctx op reader)).1 = .outcome (.ok (.accepted values))) :
    op.Executed d.engine.settings d.session.height d.session.proposal reader processor values := by
  have result := Engine.process_accepted (Reply.outcome.inj accepted)
  obtain ⟨again, _, found, written, _⟩ := Engine.runProcess_ok result
  have served := Settings.find_server ready.clean.processors found
  rw [known.served] at served
  cases served
  exact ⟨known, written⟩

theorem serve_served (served : t.Served settings height proposal reader d) {request : Request}
    (asked : request.Over reader) :
    Tally.Served settings height proposal reader (d.serve request).2
      (t.count (request, (d.serve request).1)) := by
  obtain ⟨ready, rfl, rfl, rfl, waiting, accepted⟩ := served
  have kept := d.serve_kept request
  suffices entries : (∀ op ∈ (t.count (request, (d.serve request).1)).waiting, ∃ processor,
        op.Permitted d.engine.settings d.session.height d.session.proposal reader processor) ∧
      ∀ entry ∈ (t.count (request, (d.serve request).1)).accepted, ∃ processor,
        entry.1.Executed d.engine.settings d.session.height d.session.proposal reader processor
          entry.2 from
    ⟨serve_ready ready request, serve_settings d request, kept.height_eq, kept.proposal_eq,
      entries.1, entries.2⟩
  rcases t.count_cases request (d.serve request).1 with
    ⟨_, same⟩ | ⟨ctx, op, r, rfl, reply, grown⟩ | ⟨ctx, op, r, values, rfl, reply, member, moved⟩
  · rw [same]
    exact ⟨waiting, accepted⟩
  · obtain ⟨rfl, _⟩ := id asked
    rw [grown]
    refine ⟨fun other listed => ?_, accepted⟩
    rcases List.mem_append.mp listed with old | new
    · exact waiting other old
    · rw [List.mem_singleton.mp new]
      exact serve_permitted ready asked reply
  · obtain ⟨rfl, _⟩ := id asked
    rw [moved]
    refine ⟨fun other left => waiting other (List.mem_of_mem_erase left), fun entry listed => ?_⟩
    rcases List.mem_append.mp listed with old | new
    · exact accepted entry old
    · rw [List.mem_singleton.mp new]
      obtain ⟨processor, known⟩ := waiting op member
      exact ⟨processor, serve_executed ready known reply⟩

theorem run_served (served : t.Served settings height proposal reader d) {requests : List Request}
    (asked : ∀ request ∈ requests, request.Over reader) :
    Tally.Served settings height proposal reader (d.after requests)
      ((d.transcript requests).foldl Tally.count t) := by
  induction requests generalizing d t with
  | nil => exact served
  | cons request rest ih =>
    exact ih (serve_served served (asked request List.mem_cons_self))
      fun other member => asked other (List.mem_cons_of_mem _ member)

theorem accepted_executed {e : Engine} (path : Engine.Reachable settings e) (height : Height)
    (proposal : Option Proposal) {requests : List Request}
    (asked : ∀ request ∈ requests, request.Over reader) :
    ∀ entry ∈ (checkout e height proposal).accepted requests, ∃ processor,
      entry.1.Executed settings height proposal reader processor entry.2 := by
  have clean := Engine.reachable_clean path
  have start : Tally.empty.Served settings height proposal reader (checkout e height proposal) := by
    refine ⟨checkout_ready clean height proposal,
      Engine.reachable_settings (.checkout path height proposal), ?_, ?_, ?_, ?_⟩
    · simp only [checkout, Engine.checkout_fresh clean]
    · simp only [checkout, Engine.checkout_fresh clean]
    · simp [Tally.empty]
    · simp [Tally.empty]
  exact (run_served start asked).accepted

end Desk
end SignedLedger

import SignedLedger.Session.Engine

-- Everything that waits in an engine is cleared: idle sessions are ended ones and
-- idle processors are unbound. So what a session is served with does not depend
-- on what the engine was used for before.
namespace SignedLedger

-- Engines that calls on any sessions lead to. A session is not tied to the engine
-- here, so interleavings of several sessions are histories as well.
inductive Engine.Reachable (settings : Settings) : Engine → Prop where
  | new (capacity processorCapacity : Nat) :
      Reachable settings (Engine.new settings capacity processorCapacity)
  | checkout (path : Reachable settings e) (height : Height) (proposal : Option Proposal) :
      Reachable settings (e.checkout height proposal).2
  | preProcess (path : Reachable settings e) (s : Session) (ctx : Context) (op : Operation)
      (reader : Reader) : Reachable settings (e.preProcess s ctx op reader).engine
  | process (path : Reachable settings e) (s : Session) (ctx : Context) (op : Operation)
      (reader : Reader) : Reachable settings (e.process s ctx op reader).engine
  | finish (path : Reachable settings e) (s : Session) (cancelled : Bool) :
      Reachable settings (e.finish s cancelled)

def Workshop.Clean (w : Workshop) : Prop :=
  ∀ kind, ∀ processor ∈ (w.lists kind).idle, processor = Processor.idle (.builtIn kind)

structure Engine.Clean (e : Engine) : Prop where
  sessions : ∀ s ∈ e.sessions.idle, s = Session.ended
  processors : e.workshop.Clean

def Processor.serving (kind : ProcessorKind) (height : Height) (proposal : Option Proposal)
    (reader : Reader) : Processor :=
  match kind with
  | .custom service => ⟨.custom service, Bound.bind height reader, []⟩
  | .builtIn k => ⟨.builtIn k, Bound.bind height reader, Workshop.suffrageFor k proposal⟩

namespace Workshop

theorem empty_clean (capacity : Nat) : (Workshop.empty capacity).Clean := by
  intro kind processor idle
  simp [Workshop.empty, FreeList.empty] at idle

theorem withList_clean {w : Workshop} (clean : w.Clean) {kind : FactKind} {list : FreeList Processor}
    (cleared : ∀ processor ∈ list.idle, processor = Processor.idle (.builtIn kind)) :
    (w.withList kind list).Clean := by
  intro k processor idle
  by_cases same : k = kind
  · subst same
    simp only [withList] at idle
    exact cleared processor idle
  · simp only [withList, if_neg same] at idle
    exact clean k processor idle

theorem take_clean {w : Workshop} (clean : w.Clean) (kind : ProcessorKind) (height : Height)
    (proposal : Option Proposal) (reader : Reader) :
    (w.take kind height proposal reader).1 = Processor.serving kind height proposal reader ∧
      (w.take kind height proposal reader).2.Clean := by
  cases kind with
  | custom service => exact ⟨rfl, clean⟩
  | builtIn k =>
    cases held : (w.lists k).idle with
    | nil =>
      simp only [Workshop.take, FreeList.take, held]
      exact ⟨rfl, withList_clean clean (by simp)⟩
    | cons processor rest =>
      have cleared := clean k
      rw [held] at cleared
      simp only [Workshop.take, FreeList.take, held]
      refine ⟨?_, withList_clean clean fun p idle => cleared p (List.mem_cons_of_mem _ idle)⟩
      rw [cleared processor List.mem_cons_self]
      rfl

theorem close_clean {w : Workshop} (clean : w.Clean) (processor : Processor) :
    (w.close processor).2.Clean := by
  obtain ⟨kind, bound, suffrage⟩ := processor
  cases kind with
  | custom service => exact clean
  | builtIn k =>
    refine withList_clean clean fun p idle => ?_
    unfold FreeList.put at idle
    split at idle
    · rcases List.mem_cons.mp idle with rfl | old
      · rfl
      · exact clean k p old
    · exact clean k p idle

theorem closeAll_clean {w : Workshop} (clean : w.Clean) (processors : List Processor) :
    (w.closeAll processors).2.Clean := by
  induction processors generalizing w with
  | nil => exact clean
  | cons processor rest ih => exact ih (close_clean clean processor)

end Workshop

inductive Maker.Makes (site : Registry.Site) : Maker → ProcessorKind → Prop where
  | builtIn (kind : FactKind) : Makes site (.builtIn kind) (.builtIn kind)
  | custom (made : create site.height site.proposal site.reader = .ok service) :
      Makes site (.custom create) (.custom service)

-- What serves an operation is decided without a look at the workshop: either a fault, or
-- a type of processor that is then taken from the workshop.
theorem Registry.make_decides (maker : Maker) (site : Registry.Site) :
    (∃ fault, ∀ w, Registry.make maker w site = .error fault) ∨
      ∃ kind, maker.Makes site kind ∧ ∀ w, Registry.make maker w site =
        .ok (w.take kind site.height site.proposal site.reader) := by
  cases maker with
  | builtIn kind => exact .inr ⟨.builtIn kind, .builtIn kind, fun _ => rfl⟩
  | custom create =>
    dsimp only [Registry.make]
    cases made : create site.height site.proposal site.reader with
    | error fault => exact .inl ⟨fault, fun _ => rfl⟩
    | ok service => exact .inr ⟨.custom service, .custom made, fun _ => rfl⟩

theorem Settings.find_decides (settings : Settings) (s : Session) (op : Operation)
    (reader : Reader) :
    (∃ fault, ∀ w, settings.find w s op reader = .error fault) ∨
      ∃ maker told kind, settings.dispatch.choose settings.registry
          ⟨s.height, s.proposal, reader⟩ op = .ok (maker, told) ∧
        maker.Makes ⟨s.height, told, reader⟩ kind ∧
        ∀ w, settings.find w s op reader = .ok (w.take kind s.height told reader) := by
  unfold Settings.find
  cases settings.dispatch.choose settings.registry ⟨s.height, s.proposal, reader⟩ op with
  | error fault => exact .inl ⟨fault, fun _ => rfl⟩
  | ok chosen =>
    obtain ⟨maker, told⟩ := chosen
    rcases Registry.make_decides maker ⟨s.height, told, reader⟩ with refused | ⟨kind, made, taken⟩
    · exact .inl refused
    · exact .inr ⟨maker, told, kind, rfl, made, taken⟩

def Check.admission {α : Type} : Check α → Except Fault Admission
  | .ok _ => .ok .admitted
  | .error (.rejected reason) => .ok (.rejected reason)
  | .error (.failed fault) => .error fault

def Check.executed : Check (List MergeValue) → Except Fault Outcome
  | .ok values => .ok (.accepted values)
  | .error (.rejected reason) => .ok (.rejected reason)
  | .error (.failed fault) => .error fault

def Check.reason? {α : Type} : Check α → Option Reason
  | .error (.rejected reason) => some reason
  | _ => none

def Metrics.countReason (m : Metrics) : Option Reason → Metrics
  | some reason => m.countRejection reason.kind
  | none => m

namespace Engine
variable {settings : Settings} {e : Engine}

theorem new_clean (settings : Settings) (capacity processorCapacity : Nat) :
    (Engine.new settings capacity processorCapacity).Clean :=
  ⟨by simp [Engine.new, FreeList.empty], Workshop.empty_clean _⟩

theorem checkout_clean (clean : e.Clean) (height : Height) (proposal : Option Proposal) :
    (e.checkout height proposal).2.Clean := by
  refine ⟨fun s idle => clean.sessions s ?_, clean.processors⟩
  simp only [checkout, FreeList.take] at idle
  split at idle
  · exact idle
  · rename_i waiting
    rw [waiting]
    exact List.mem_cons_of_mem _ idle

theorem checkout_fresh (clean : e.Clean) (height : Height) (proposal : Option Proposal) :
    (e.checkout height proposal).1 = ⟨height, proposal, some Tracker.empty, some []⟩ := by
  have idle := clean.sessions
  simp only [checkout, FreeList.take]
  cases waiting : e.sessions.idle with
  | nil => rfl
  | cons s rest =>
    rw [idle s (by rw [waiting]; exact List.mem_cons_self)]
    rfl

theorem finish_clean (clean : e.Clean) (s : Session) (cancelled : Bool) :
    (e.finish s cancelled).Clean := by
  refine ⟨fun idle waiting => ?_, Workshop.closeAll_clean clean.processors _⟩
  simp only [finish, FreeList.put] at waiting
  split at waiting
  · rcases List.mem_cons.mp waiting with rfl | old
    · rfl
    · exact clean.sessions idle old
  · exact clean.sessions idle waiting

theorem find_clean {w rest : Workshop} {s : Session} {op : Operation} {reader : Reader}
    {processor : Processor} (clean : w.Clean)
    (found : settings.find w s op reader = .ok (processor, rest)) : rest.Clean := by
  rcases settings.find_decides s op reader with ⟨fault, refused⟩ | ⟨_, told, kind, _, _, taken⟩
  · rw [refused] at found
    cases found
  · rw [taken] at found
    have kept := (Workshop.take_clean clean kind s.height told reader).2
    rw [Except.ok.inj found] at kept
    exact kept

theorem trackAnd_workshop {α : Type} (s : Session) (w : Workshop) (processor : Processor)
    (result : Check α) : (trackAnd s w processor result).workshop = w := by
  unfold trackAnd
  split
  · rfl
  · rfl

-- What a call leaves of a workshop: all of it, or what is left beside the processor that
-- serves it.
def Leaves (settings : Settings) (w : Workshop) (s : Session) (op : Operation) (reader : Reader)
    (left : Workshop) : Prop :=
  left = w ∨ ∃ processor, settings.find w s op reader = .ok (processor, left)

theorem runPreProcess_leaves (settings : Settings) (w : Workshop) (s : Session) (ctx : Context)
    (op : Operation) (reader : Reader) :
    Leaves settings w s op reader (runPreProcess settings w s ctx op reader).workshop := by
  unfold runPreProcess
  split
  · exact .inl rfl
  · split
    · exact .inl rfl
    · rename_i found
      rw [trackAnd_workshop]
      exact .inr ⟨_, found⟩

theorem runProcess_leaves (settings : Settings) (w : Workshop) (s : Session) (ctx : Context)
    (op : Operation) (reader : Reader) :
    Leaves settings w s op reader (runProcess settings w s ctx op reader).workshop := by
  unfold runProcess
  split
  · exact .inl rfl
  · rename_i found
    rw [trackAnd_workshop]
    exact .inr ⟨_, found⟩

theorem Leaves.clean {w left : Workshop} {s : Session} {op : Operation} {reader : Reader}
    (leaves : Leaves settings w s op reader left) (clean : w.Clean) : left.Clean := by
  rcases leaves with rfl | ⟨_, found⟩
  · exact clean
  · exact find_clean clean found

section Calls
variable {ctx : Context} {op : Operation} {reader : Reader} {s : Session} {fault : Fault}

theorem preProcess_stopped (stopped : ctx.ensureActive = .error fault) :
    e.preProcess s ctx op reader = ⟨.error fault, s, e⟩ := by
  simp only [preProcess, stopped]

theorem process_stopped (stopped : ctx.ensureActive = .error fault) :
    e.process s ctx op reader = ⟨.error fault, s, e⟩ := by
  simp only [process, stopped]

theorem preProcess_active (e : Engine) (s : Session) (op : Operation) (reader : Reader)
    (active : ctx.ensureActive = .ok ()) :
    let call := e.preProcess s ctx op reader
    let step := runPreProcess e.settings e.workshop s ctx op reader
    call.answer = step.result.admission ∧ call.session = step.session ∧
      call.engine = { e with
        metrics := e.metrics.countPreprocess.countReason step.result.reason?
        workshop := step.workshop } := by
  intro call step
  simp only [call, preProcess, active]
  cases done : step.result with
  | ok => exact ⟨rfl, rfl, rfl⟩
  | error failure =>
    cases failure with
    | rejected reason => exact ⟨rfl, rfl, rfl⟩
    | failed fault => exact ⟨rfl, rfl, rfl⟩

theorem process_active (e : Engine) (s : Session) (op : Operation) (reader : Reader)
    (active : ctx.ensureActive = .ok ()) :
    let call := e.process s ctx op reader
    let step := runProcess e.settings e.workshop s ctx op reader
    call.answer = step.result.executed ∧ call.session = step.session ∧
      call.engine = { e with
        metrics := e.metrics.countProcess.countReason step.result.reason?
        workshop := step.workshop } := by
  intro call step
  simp only [call, process, active]
  cases done : step.result with
  | ok values => exact ⟨rfl, rfl, rfl⟩
  | error failure =>
    cases failure with
    | rejected reason => exact ⟨rfl, rfl, rfl⟩
    | failed fault => exact ⟨rfl, rfl, rfl⟩

end Calls

theorem preProcess_clean (clean : e.Clean) (s : Session) (ctx : Context) (op : Operation)
    (reader : Reader) : (e.preProcess s ctx op reader).engine.Clean := by
  cases active : ctx.ensureActive with
  | error fault => rwa [preProcess_stopped active]
  | ok =>
    obtain ⟨_, _, left⟩ := preProcess_active e s op reader active
    rw [left]
    exact ⟨clean.sessions, (runPreProcess_leaves _ _ _ _ _ _).clean clean.processors⟩

theorem process_clean (clean : e.Clean) (s : Session) (ctx : Context) (op : Operation)
    (reader : Reader) : (e.process s ctx op reader).engine.Clean := by
  cases active : ctx.ensureActive with
  | error fault => rwa [process_stopped active]
  | ok =>
    obtain ⟨_, _, left⟩ := process_active e s op reader active
    rw [left]
    exact ⟨clean.sessions, (runProcess_leaves _ _ _ _ _ _).clean clean.processors⟩

theorem reachable_clean (path : Engine.Reachable settings e) : e.Clean := by
  induction path with
  | new capacity processorCapacity => exact new_clean _ _ _
  | checkout _ height proposal ih => exact checkout_clean ih height proposal
  | preProcess _ s ctx op reader ih => exact preProcess_clean ih s ctx op reader
  | process _ s ctx op reader ih => exact process_clean ih s ctx op reader
  | finish _ s cancelled ih => exact finish_clean ih s cancelled

theorem preProcess_settings (s : Session) (ctx : Context) (op : Operation) (reader : Reader) :
    (e.preProcess s ctx op reader).engine.settings = e.settings := by
  cases active : ctx.ensureActive with
  | error fault => rw [preProcess_stopped active]
  | ok =>
    obtain ⟨_, _, left⟩ := preProcess_active e s op reader active
    rw [left]

theorem process_settings (s : Session) (ctx : Context) (op : Operation) (reader : Reader) :
    (e.process s ctx op reader).engine.settings = e.settings := by
  cases active : ctx.ensureActive with
  | error fault => rw [process_stopped active]
  | ok =>
    obtain ⟨_, _, left⟩ := process_active e s op reader active
    rw [left]

theorem reachable_settings (path : Engine.Reachable settings e) : e.settings = settings := by
  induction path with
  | new capacity processorCapacity => rfl
  | checkout _ height proposal ih => exact ih
  | preProcess _ s ctx op reader ih => rw [preProcess_settings, ih]
  | process _ s ctx op reader ih => rw [process_settings, ih]
  | finish _ s cancelled ih => exact ih

end Engine
end SignedLedger

import Mathlib.Data.List.Induction
import SignedLedger.Proofs.Session.Compatible

-- Which processor an operation is given to, told from the calls that made the registry.
-- In each of the two tables the first call under a hint counts; a lookup takes the entry
-- of the hint itself or else the highest compatible one; and what the table without
-- proposals finds comes before anything that the other table has.
namespace SignedLedger.Registry

structure Registration where
  aware : Bool
  hint : Hint
  maker : Maker

def table (registry : Registry) : Bool → Table Hint Maker
  | false => registry.stateOnly
  | true => registry.proposalAware

def enter (registry : Registry) (call : Registration) : Except Fault Unit × Registry :=
  match call.aware with
  | false => registry.register call.hint call.maker
  | true => registry.registerWithProposal call.hint call.maker

def after (registry : Registry) (call : Registration) : Registry := (registry.enter call).2

def built (calls : List Registration) : Registry := calls.foldl after empty

def taken (call : Registration) : Misconfiguration :=
  match call.aware with
  | false => .alreadyRegistered call.hint
  | true => .alreadyRegisteredWithProposal call.hint

def entry (calls : List Registration) (aware : Bool) (hint : Hint) : Option Maker :=
  (calls.find? fun call => call.aware = aware ∧ call.hint = hint).map Registration.maker

variable {registry : Registry} {calls : List Registration} {call : Registration} {hint : Hint}

theorem entry_append (aware : Bool) (hint : Hint) : entry (calls ++ [call]) aware hint =
    (entry calls aware hint).or
      (if call.aware = aware ∧ call.hint = hint then some call.maker else none) := by
  unfold entry
  rw [List.find?_append, Option.map_or, List.find?_singleton]
  congr 1
  split
  · rename_i here
    rw [if_pos (by simpa using here)]
    rfl
  · rename_i other
    rw [if_neg (by simpa using other)]
    rfl

-- A call that fails leaves both tables as they were.
theorem enter_taken {maker : Maker} (there : (registry.table call.aware).find? call.hint = some maker) :
    registry.enter call = (.error (.config (taken call)), registry) := by
  obtain ⟨aware, hint, maker'⟩ := call
  cases aware with
  | false =>
    simp only [table] at there
    simp only [enter, register, taken, there]
  | true =>
    simp only [table] at there
    simp only [enter, registerWithProposal, taken, there]

-- A new hint goes to the table that the call is for, and the other one stays as it is.
theorem enter_free (free : (registry.table call.aware).find? call.hint = none) :
    registry.enter call = (.ok (), registry.after call) ∧ ∀ aware, (registry.after call).table aware =
      if call.aware = aware then (registry.table aware).set call.hint call.maker
      else registry.table aware := by
  obtain ⟨aware, hint, maker⟩ := call
  cases aware with
  | false =>
    simp only [table] at free
    have entered : registry.enter ⟨false, hint, maker⟩ =
        (.ok (), { registry with stateOnly := registry.stateOnly.set hint maker }) := by
      simp only [enter, register, free]
    unfold after
    rw [entered]
    refine ⟨rfl, ?_⟩
    rintro (_ | _)
    · rfl
    · rfl
  | true =>
    simp only [table] at free
    have entered : registry.enter ⟨true, hint, maker⟩ =
        (.ok (), { registry with proposalAware := registry.proposalAware.set hint maker }) := by
      simp only [enter, registerWithProposal, free]
    unfold after
    rw [entered]
    refine ⟨rfl, ?_⟩
    rintro (_ | _)
    · rfl
    · rfl

structure Holds (registry : Registry) (calls : List Registration) : Prop where
  ascending : ∀ aware, Table.Ascending (registry.table aware)
  entries : ∀ aware hint, (registry.table aware).find? hint = entry calls aware hint

theorem empty_holds : Holds empty [] where
  ascending := by
    rintro (_ | _)
    · exact .nil
    · exact .nil
  entries := by
    rintro (_ | _) hint
    · rfl
    · rfl

theorem after_holds (held : Holds registry calls) (call : Registration) :
    Holds (registry.after call) (calls ++ [call]) := by
  cases there : (registry.table call.aware).find? call.hint with
  | some maker =>
    unfold after
    rw [enter_taken there]
    refine ⟨held.ascending, fun aware hint => ?_⟩
    dsimp only
    rw [entry_append, ← held.entries]
    split
    · rename_i here
      rw [← here.1, ← here.2, there]
      rfl
    · exact Option.or_none.symm
  | none =>
    have tables := (enter_free there).2
    refine ⟨fun aware => ?_, fun aware hint => ?_⟩
    · rw [tables]
      split
      · exact Table.set_ascending (held.ascending aware) _ _
      · exact held.ascending aware
    · rw [tables, entry_append, ← held.entries]
      by_cases same : call.aware = aware
      · subst same
        rw [if_pos rfl, Table.find_set]
        by_cases here : call.hint = hint
        · subst here
          simp [there]
        · simp [here]
      · simp [same]

theorem built_holds (calls : List Registration) : Holds (built calls) calls := by
  induction calls using List.reverseRecOn with
  | nil => exact empty_holds
  | append_singleton calls call ih =>
    unfold built
    rw [List.foldl_append]
    exact after_holds ih call

-- What a dispatch comes to when the tables have been looked up.
inductive Dispatched (workshop : Workshop) (site : Site) (hint : Hint) :
    Option Maker → Option Maker → Except Fault (Processor × Workshop) → Prop where
  | plain {maker : Maker} {other : Option Maker} :
      Dispatched workshop site hint (some maker) other
        (make maker workshop { site with proposal := none })
  | aware {maker : Maker} {proposal : Proposal} (proposed : site.proposal = some proposal) :
      Dispatched workshop site hint none (some maker) (make maker workshop site)
  | unproposed {maker : Maker} (missing : site.proposal = none) :
      Dispatched workshop site hint none (some maker) (.error (.config (.proposalNeeded hint)))
  | unregistered : Dispatched workshop site hint none none (.error (.unregistered hint))

-- How a registry that was made by calls serves a hint.
structure Serves (calls : List Registration) (hint : Hint) : Prop where
  repeated : ∀ call maker, entry calls call.aware call.hint = some maker →
    (built calls).enter call = (.error (.config (taken call)), built calls) ∧
      built (calls ++ [call]) = built calls
  fresh : ∀ call, entry calls call.aware call.hint = none →
    (built calls).enter call = (.ok (), built (calls ++ [call]))
  found : ∀ aware maker?, findCompatible ((built calls).table aware) hint = maker? ↔
    Picks (entry calls aware) hint maker?
  dispatched : ∀ workshop site plain aware, Picks (entry calls false) hint plain →
    Picks (entry calls true) hint aware →
    Dispatched workshop site hint plain aware ((built calls).dispatch workshop site hint)

theorem built_serves (calls : List Registration) (hint : Hint) : Serves calls hint := by
  have held := built_holds calls
  have found (aware : Bool) (maker? : Option Maker) :
      findCompatible ((built calls).table aware) hint = maker? ↔
        Picks (entry calls aware) hint maker? := by
    have picked : Picks ((built calls).table aware).find? hint
        (findCompatible ((built calls).table aware) hint) :=
      findCompatible_picks (held.ascending aware)
    rw [funext (held.entries aware)] at picked
    constructor
    · rintro rfl
      exact picked
    · exact picked.unique
  have next (call : Registration) : built (calls ++ [call]) = (built calls).after call := by
    unfold built
    rw [List.foldl_append]
    rfl
  refine ⟨?_, ?_, found, ?_⟩
  · intro call maker there
    rw [← held.entries] at there
    have refused := enter_taken there
    refine ⟨refused, ?_⟩
    rw [next, after, refused]
  · intro call free
    rw [← held.entries] at free
    rw [next, (enter_free free).1]
  · intro workshop site plain aware first second
    have plainly : findCompatible (built calls).stateOnly hint = plain := (found false plain).mpr first
    have awarely : findCompatible (built calls).proposalAware hint = aware :=
      (found true aware).mpr second
    unfold dispatch choose
    rw [plainly, awarely]
    cases plain with
    | some maker => exact .plain
    | none =>
      cases aware with
      | none => exact .unregistered
      | some maker =>
        obtain ⟨height, proposal, reader⟩ := site
        cases proposal with
        | none => exact .unproposed rfl
        | some proposal => exact .aware rfl

example : built (FactKind.all.map fun kind =>
    ⟨kind = .candidate, kind.operationHint, .builtIn kind⟩) = standard := by
  rfl

end SignedLedger.Registry

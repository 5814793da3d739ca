import SignedLedger.Proofs.Check
import SignedLedger.Proofs.State.Slot

-- How checks fail. A stage is bounded by the failures that are allowed to it, and the
-- bound of a sequence follows from those of its steps.
namespace SignedLedger

def Check.FailsOnly {α : Type} (allowed : Failure → Prop) (x : Check α) : Prop :=
  ∀ failure, x = .error failure → allowed failure

namespace Check.FailsOnly
variable {α β : Type} {allowed wider : Failure → Prop}

theorem mono {x : Check α} (fails : FailsOnly allowed x)
    (wide : ∀ failure, allowed failure → wider failure) : FailsOnly wider x :=
  fun failure failed => wide failure (fails failure failed)

theorem ok (a : α) : FailsOnly allowed (.ok a : Check α) := nofun

theorem bind {x : Check α} {f : α → Check β} (first : FailsOnly allowed x)
    (later : ∀ a, x = .ok a → FailsOnly allowed (f a)) : FailsOnly allowed (x >>= f) := by
  intro failure failed
  rcases bind_error.mp failed with now | ⟨a, done, after⟩
  · exact first failure now
  · exact later a done failure after

theorem lift {x : Except Fault α} (fails : ∀ fault, x = .error fault → allowed (.failed fault)) :
    FailsOnly allowed (liftM x : Check α) := by
  intro failure failed
  cases x with
  | ok a => cases failed
  | error fault =>
    cases failed
    exact fails fault rfl

theorem reject {kind : ReasonKind} {message : String} (refusal : allowed (.rejected ⟨kind, message⟩)) :
    FailsOnly allowed (reject kind message : Check α) := by
  intro failure failed
  cases failed
  exact refusal

theorem fail {fault : Fault} (failing : allowed (.failed fault)) :
    FailsOnly allowed (fail fault : Check α) := by
  intro failure failed
  cases failed
  exact failing

theorem require {holds : Bool} {kind : ReasonKind} {message : String}
    (refusal : holds = false → allowed (.rejected ⟨kind, message⟩)) :
    FailsOnly allowed (require holds kind message) := by
  cases holds with
  | true => exact ok ()
  | false => exact reject (refusal rfl)

theorem forM {f : α → Check Unit} {items : List α}
    (each : ∀ item ∈ items, FailsOnly allowed (f item)) : FailsOnly allowed (items.forM f) := by
  induction items with
  | nil => exact ok ()
  | cons item rest ih =>
    rw [List.forM_eq_forM, List.forM_cons]
    apply bind (each item List.mem_cons_self)
    intro _ _
    exact ih fun other member => each other (List.mem_cons_of_mem _ member)

theorem optionForM {f : α → Check Unit} {found : Option α}
    (each : ∀ item, found = some item → FailsOnly allowed (f item)) :
    FailsOnly allowed (found.forM f) := by
  cases found with
  | none => exact ok ()
  | some item => exact each item rfl

theorem existing {found : Except Fault (Option α)} {missing : String}
    (absent : found = .ok none → allowed (.rejected ⟨.stateNotFound, missing⟩))
    (fails : ∀ fault, found = .error fault → allowed (.failed fault)) :
    FailsOnly allowed (Lookup.existing found missing) := by
  apply bind (lift fails)
  intro read same
  cases read with
  | none => exact reject (absent (lift_ok.mp same))
  | some a => exact ok a

end Check.FailsOnly

-- What a read can come to in place of an answer: a fault of the reader, or a value of
-- another family than its key.
inductive Reader.Trouble (reader : Reader) : Fault → Prop where
  | failing {key : String} {fault : Fault} (failed : reader key = .error fault) :
      Trouble reader fault
  | mistyped {slot : Slot} {state : State} (stored : reader slot.key = .ok (some state))
      (other : state.value.kind ≠ slot.kind) :
      Trouble reader (.valueMismatch (.value slot.kind) state.value.kind)

namespace Lookup
variable {reader : Reader} {fault : Fault}

theorem read_trouble {α : Type} (slot : Slot) {extract : StateValue → Option α}
    (extracts : ∀ value, value.kind = slot.kind → (extract value).isSome = true)
    (failed : read reader slot.key slot.kind extract = .error fault) : reader.Trouble fault := by
  unfold read typed at failed
  rcases Check.bind_error.mp failed with unread | ⟨found, stored, other⟩
  · exact .failing unread
  · cases found with
    | none => cases other
    | some state =>
      dsimp only at other
      split at other
      · cases other
      · rename_i missing
        cases other
        apply Reader.Trouble.mistyped stored
        intro same
        have extracted := extracts state.value same
        rw [missing] at extracted
        cases extracted

theorem account_trouble {a : Address} (failed : account reader a = .error fault) :
    reader.Trouble fault := by
  apply read_trouble (.account a) _ failed
  intro value same
  cases value with
  | account _ => rfl
  | _ => cases same

theorem balance_trouble {a : Address} {c : Currency} (failed : balance reader a c = .error fault) :
    reader.Trouble fault := by
  apply read_trouble (.balance a c) _ failed
  intro value same
  cases value with
  | balance _ => rfl
  | _ => cases same

theorem currencyDesign_trouble {c : Currency} (failed : currencyDesign reader c = .error fault) :
    reader.Trouble fault := by
  apply read_trouble (.currencyDesign c) _ failed
  intro value same
  cases value with
  | currencyDesign _ => rfl
  | _ => cases same

theorem contractStatus_trouble {a : Address} (failed : contractStatus reader a = .error fault) :
    reader.Trouble fault := by
  apply read_trouble (.contractAccount a) _ failed
  intro value same
  cases value with
  | contractAccount _ => rfl
  | _ => cases same

theorem didDesign_trouble {c : Address} (failed : didDesign reader c = .error fault) :
    reader.Trouble fault := by
  apply read_trouble (.didDesign c) _ failed
  intro value same
  cases value with
  | didDesign _ => rfl
  | _ => cases same

theorem didData_trouble {c a : Address} (failed : didData reader c a = .error fault) :
    reader.Trouble fault := by
  apply read_trouble (.didData c a) _ failed
  intro value same
  cases value with
  | didData _ => rfl
  | _ => cases same

theorem didDocument_trouble {c : Address} {did : String}
    (failed : didDocument reader c did = .error fault) : reader.Trouble fault := by
  apply read_trouble (.didDocument c did) _ failed
  intro value same
  cases value with
  | didDocument _ => rfl
  | _ => cases same

theorem suffrageCandidates_trouble (failed : suffrageCandidates reader = .error fault) :
    reader.Trouble fault := by
  unfold suffrageCandidates at failed
  rcases Check.bind_error.mp failed with unread | ⟨_, _, none⟩
  · apply read_trouble .suffrageCandidates _ unread
    intro value same
    cases value with
    | suffrageCandidates _ => rfl
    | _ => cases same
  · cases none

end Lookup

end SignedLedger

import SignedLedger.Failure

namespace SignedLedger

structure Metrics where
  preprocess : Nat
  process : Nat
  rejected : ReasonKind → Nat
  closed : Nat
  cancelled : Nat

namespace Metrics

def zero : Metrics := ⟨0, 0, fun _ => 0, 0, 0⟩

def countPreprocess (m : Metrics) : Metrics := { m with preprocess := m.preprocess + 1 }

def countProcess (m : Metrics) : Metrics := { m with process := m.process + 1 }

def countRejection (m : Metrics) (kind : ReasonKind) : Metrics :=
  { m with rejected := fun k => if k = kind then m.rejected k + 1 else m.rejected k }

def countEnd (m : Metrics) (cancelled : Bool) : Metrics :=
  if cancelled then { m with cancelled := m.cancelled + 1 } else { m with closed := m.closed + 1 }

def labelOrder : List ReasonKind :=
  [.contractStatus, .duplicated, .insufficientBalance, .invalidFact, .limitExceeded, .stateExists,
    .stateNotFound, .unauthorized]

def familyText (name help : String) (samples : List String) : String :=
  let lines := s!"# HELP {name} {help}" :: s!"# TYPE {name} counter" :: samples
  String.join (lines.map fun line => line ++ "\n")

def counterText (name help : String) (count : Nat) : String :=
  familyText name help [s!"{name} {count}"]

def rejectionSample (m : Metrics) (kind : ReasonKind) : Option String :=
  if m.rejected kind = 0 then none
  else some ("opengine_rejected_total\x7breason=\"" ++ kind.text ++ "\"\x7d " ++
    toString (m.rejected kind))

def rejectionText (m : Metrics) : String :=
  match labelOrder.filterMap m.rejectionSample with
  | [] => ""
  | samples => familyText "opengine_rejected_total" "Soft rejections by reason kind" samples

def exposition (m : Metrics) : String :=
  counterText "opengine_preprocess_total" "Operations pre-processed" m.preprocess ++
    counterText "opengine_process_total" "Operations processed" m.process ++
    m.rejectionText ++
    counterText "opengine_sessions_cancelled_total" "Sessions ended with cancel" m.cancelled ++
    counterText "opengine_sessions_closed_total" "Sessions ended with close" m.closed

def brief (m : Metrics) : String :=
  "Metrics \x7b preprocess_total: " ++ toString m.preprocess ++ ", process_total: " ++
    toString m.process ++ ", .. \x7d"

end Metrics
end SignedLedger

import SignedLedger.Proofs.State.Written

-- Why a block cannot be written. A value is refused because the store cannot be read,
-- because money does not add up, or because it does not go with what was merged before;
-- where values of one key go together, only the first two are left.
namespace SignedLedger
open Check

def Fault.OfSums : Fault → Prop
  | .invariant (.notBalanceKey _) | .invariant (.foreignCurrency _ _) => True
  | .arithmetic (.balanceDelta _) | .valueMismatch _ _ => True
  | _ => False

namespace Merger
variable {reader : Reader} {height : Height} {key : String} {entry : Option Merger}
  {touch : Digest × MergeValue} {fault : Fault}

inductive Refusal (reader : Reader) (entry : Option Merger) (value : MergeValue) : Fault → Prop where
  | reading {fault : Fault} (failed : reader value.key = .error fault) :
      Refusal reader entry value fault
  | summing {fault : Fault} (money : fault.OfSums) : Refusal reader entry value fault
  | conflicting {current : StateValue} (key : String) (set : value.kind = .set)
      (held : entry.bind held? = some current) (apart : current.agrees value.value = false) :
      Refusal reader entry value (.invariant (.conflictingWrites key))
  | mixed {m : Merger} (merged : entry = some m) (kinds : m.kind ≠ value.kind) :
      Refusal reader entry value (.invariant (.mixedMergers value.key))

theorem startBalance_fault {existing : Option State}
    (failed : startBalance key existing = .error fault) : fault.OfSums := by
  unfold startBalance at failed
  split at failed
  · cases failed
    trivial
  · split at failed
    · cases failed
    · split at failed
      · cases failed
      · cases failed
        trivial

theorem ownAmount_fault {merger : BalanceMerger} {amount : Amount}
    (failed : ownAmount key merger amount = .error fault) : fault.OfSums := by
  unfold ownAmount at failed
  split at failed
  · cases failed
  · cases failed
    trivial

theorem withDelta_fault {merger : BalanceMerger} {delta : Option Decimal}
    (failed : withDelta key merger delta = .error fault) : fault.OfSums := by
  unfold withDelta at failed
  split at failed
  · cases failed
  · cases failed
    trivial

theorem mergeBalance_fault {merger : BalanceMerger} {value : StateValue}
    (failed : mergeBalance key merger value = .error fault) : fault.OfSums := by
  unfold mergeBalance at failed
  split at failed
  · rcases bind_error.mp failed with foreign | ⟨_, _, overflow⟩
    · exact ownAmount_fault foreign
    · exact withDelta_fault overflow
  · rcases bind_error.mp failed with foreign | ⟨_, _, overflow⟩
    · exact ownAmount_fault foreign
    · exact withDelta_fault overflow
  · cases failed
    trivial

theorem mergeSet_fault {merger : SetMerger} {value : StateValue}
    (failed : mergeSet key merger value = .error fault) :
    fault = .invariant (.conflictingWrites key) ∧
      ∃ current, merger.value = some current ∧ current.agrees value = false := by
  unfold mergeSet at failed
  split at failed
  · cases failed
  · rename_i current held
    split at failed
    · cases failed
    · rename_i apart
      cases failed
      exact ⟨rfl, current, held, by simpa using apart⟩

theorem start_fault {kind : MergerKind} {existing : Option State}
    (failed : start kind height key existing = .error fault) : fault.OfSums := by
  unfold start at failed
  cases kind with
  | set => cases failed
  | balance =>
    rcases bind_error.mp failed with balance | ⟨_, _, none⟩
    · exact startBalance_fault balance
    · cases none

theorem start_fresh {kind : MergerKind} {existing : Option State} {m : Merger}
    (started : start kind height key existing = .ok m) : m.kind = kind ∧ m.held? = none := by
  unfold start at started
  cases kind with
  | set =>
    cases started
    exact ⟨rfl, rfl⟩
  | balance =>
    simp only [bind_ok, pure_ok] at started
    obtain ⟨merger, _, rfl⟩ := started
    exact ⟨rfl, rfl⟩

theorem openMerger_known {m : Merger}
    (opened : openMerger height reader entry touch.2 = .ok m) :
    entry = some m ∨ m.kind = touch.2.kind ∧ m.held? = none := by
  cases entry with
  | some held =>
    cases opened
    exact .inl rfl
  | none =>
    simp only [openMerger, bind_ok] at opened
    obtain ⟨_, _, started⟩ := opened
    exact .inr (start_fresh started)

theorem mergeStep_refusal (failed : mergeStep height reader entry touch = .error fault) :
    Refusal reader entry touch.2 fault := by
  unfold mergeStep at failed
  rcases bind_error.mp failed with opening | ⟨m, opened, merging⟩
  · cases entry with
    | some held => cases opening
    | none =>
      rcases bind_error.mp opening with reading | ⟨_, _, starting⟩
      · exact .reading reading
      · exact .summing (start_fault starting)
  · have known := openMerger_known opened
    split at merging
    · rename_i kinds
      unfold merge at merging
      rcases bind_error.mp merging with state | ⟨_, _, none⟩
      · obtain ⟨key, _, inner, _⟩ := m
        cases inner with
        | balance merger =>
          rcases bind_error.mp state with summing | ⟨_, _, none⟩
          · exact .summing (mergeBalance_fault summing)
          · cases none
        | set merger =>
          rcases bind_error.mp state with writing | ⟨_, _, none⟩
          · obtain ⟨rfl, current, held, apart⟩ := mergeSet_fault writing
            rcases known with rfl | ⟨_, fresh⟩
            · exact .conflicting key kinds.symm held apart
            · cases held.symm.trans fresh
          · cases none
      · cases none
    · rename_i kinds
      cases merging
      rcases known with rfl | ⟨same, _⟩
      · exact .mixed rfl kinds
      · exact absurd same kinds

theorem After.kind_eq {m : Merger} {values : List MergeValue}
    (after : m.After reader height key values) : ∀ value ∈ values, value.kind = m.kind := by
  cases after with
  | balance _ kinds _ => exact kinds
  | set _ kinds _ => exact kinds

theorem After.held_mem {m : Merger} {values : List MergeValue} {current : StateValue}
    (after : m.After reader height key values) (held : m.held? = some current) :
    ∃ value ∈ values, value.kind = .set ∧ value.value = current := by
  cases after with
  | balance _ _ _ => cases held
  | set _ kinds first =>
    obtain ⟨value, head, same⟩ := Option.map_eq_some_iff.mp (first.symm.trans held)
    have member := List.mem_of_head? head
    exact ⟨value, member, kinds value member, same⟩

theorem close_fault {m : Merger} (failed : m.close = .error fault) :
    (∃ key, fault = .invariant (.nothingMerged key) ∨ fault = .arithmetic (.balance key)) ∨
      ∃ key total, fault = .invariant (.negativeBalance total key) := by
  unfold close at failed
  rcases bind_error.mp failed with closing | ⟨_, _, none⟩
  · unfold closeValue at closing
    split at closing
    · cases closing
    · cases closing
      exact .inl ⟨_, .inl rfl⟩
    · unfold closeBalance at closing
      split at closing
      · cases closing
        exact .inl ⟨_, .inr rfl⟩
      · split at closing
        · cases closing
          exact .inr ⟨_, _, rfl⟩
        · cases closing
  · cases none

end Merger

structure Coherent (values : List MergeValue) : Prop where
  sorted : ∀ one ∈ values, ∀ other ∈ values, one.key = other.key → one.kind = other.kind
  single : ∀ key value value', .set key value ∈ values → .set key value' ∈ values → value = value'

def Fault.OfConflict : Fault → Prop
  | .invariant (.conflictingWrites _) | .invariant (.mixedMergers _) => True
  | _ => False

theorem applyMerges_coherent {height : Height} {batches : List Batch} {reader : Reader}
    {fault : Fault} (readable : ∀ key, ∃ found, reader key = .ok found)
    (coherent : Coherent (batches.flatMap Prod.snd))
    (failed : applyMerges height batches reader = .error fault) : ¬ fault.OfConflict := by
  intro conflict
  rcases applyMerges_refused failed with
    ⟨values, entry, touch, earlier, touched, after, stopped⟩ | ⟨_, _, entry, _, closing⟩
  · cases Merger.mergeStep_refusal stopped with
    | reading unread =>
      obtain ⟨found, read⟩ := readable touch.2.key
      rw [read] at unread
      cases unread
    | summing money =>
      unfold Fault.OfSums at money
      unfold Fault.OfConflict at conflict
      split at money <;> trivial
    | conflicting key set held apart =>
      obtain ⟨m, rfl, held⟩ := Option.bind_eq_some_iff.mp held
      obtain ⟨value, member, kind, rfl⟩ := after.2.held_mem held
      obtain ⟨inside, same⟩ := earlier value member
      rw [MergeValue.set_of_kind kind, same] at inside
      rw [MergeValue.set_of_kind set] at touched
      rw [coherent.single _ _ _ inside touched, StateValue.agrees_refl] at apart
      cases apart
    | mixed merged kinds =>
      subst merged
      obtain ⟨value, member⟩ := List.exists_mem_of_ne_nil _ after.1
      obtain ⟨inside, same⟩ := earlier value member
      have sorted := coherent.sorted value inside touch.2 touched same
      exact kinds ((after.2.kind_eq value member).symm.trans sorted)
  · rcases Merger.close_fault closing with ⟨key, rfl | rfl⟩ | ⟨key, total, rfl⟩
    · exact conflict
    · exact conflict
    · exact conflict

end SignedLedger

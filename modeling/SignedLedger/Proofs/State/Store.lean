import SignedLedger.Proofs.Decimal.Units
import SignedLedger.Proofs.State.Merge

-- What a store holds under its balance keys, and the store after a block: under each
-- key that the block touches the state that its merger closed with, and everything
-- else as it was.
namespace SignedLedger

def StateValue.held : StateValue → Decimal
  | .balance amount => amount.value
  | _ => Decimal.zero

namespace Store

def holding (store : Store) (key : String) : Decimal :=
  match store.find? key with
  | some state => state.value.held
  | none => Decimal.zero

theorem holding_of_read {store : Store} {key : String} {stored : Option Decimal}
    (read : Lookup.balanceByKey store.reader key = .ok stored) :
    store.holding key = stored.getD Decimal.zero := by
  unfold Lookup.balanceByKey Lookup.read Lookup.typed reader at read
  simp only [bind, Except.bind] at read
  unfold holding
  cases found : store.find? key with
  | none =>
    rw [found] at read
    cases read
    rfl
  | some state =>
    rw [found] at read
    dsimp only at read ⊢
    cases held : state.value with
    | balance amount =>
      rw [held] at read
      cases read
      rfl
    | _ => simp [held] at read

end Store

def Store.NonNegative (store : Store) : Prop :=
  ∀ state ∈ store.states, ∀ amount, state.value = .balance amount →
    amount.value.isNegative = false

instance (store : Store) : Decidable store.NonNegative :=
  decidable_of_iff (store.states.all (fun state => !state.value.held.isNegative) = true) (by
    rw [List.all_eq_true]
    refine forall₂_congr fun state _ => ?_
    cases state.value with
    | balance amount => simp [StateValue.held]
    | _ => simp [StateValue.held, Decimal.isNegative, Decimal.zero])

theorem Store.NonNegative.holding {store : Store} (nonneg : store.NonNegative) (key : String) :
    0 ≤ (store.holding key).units := by
  unfold Store.holding
  cases found : store.find? key with
  | none => exact Decimal.units_zero.ge
  | some state =>
    dsimp only
    cases held : state.value with
    | balance amount =>
      exact Decimal.not_isNegative_iff.mp (nonneg state (List.mem_of_find?_eq_some found) amount held)
    | _ => exact Decimal.units_zero.ge

namespace Store

theorem find_insert (store : Store) (state : State) (k : String) :
    (store.insert state).find? k = if state.key = k then some state else store.find? k := by
  obtain ⟨states⟩ := store
  unfold insert find?
  dsimp only
  induction states with
  | nil => by_cases same : state.key = k <;> simp [replace, same]
  | cons old rest ih =>
    unfold replace
    split
    · rename_i taken
      rw [List.find?_cons, List.find?_cons, taken]
      by_cases same : state.key = k <;> simp [same]
    · rename_i apart
      rw [List.find?_cons, ih, List.find?_cons]
      by_cases same : old.key = k
      · subst same
        simp [Ne.symm apart]
      · simp [same]

theorem extend_cons (store : Store) (state : State) (rest : List State) :
    store.extend (state :: rest) = (store.insert state).extend rest := rfl

theorem find_extend_of_missing (store : Store) {states : List State} {k : String}
    (missing : ∀ state ∈ states, state.key ≠ k) : (store.extend states).find? k = store.find? k := by
  induction states generalizing store with
  | nil => rfl
  | cons state rest ih =>
    rw [extend_cons, ih _ fun other member => missing other (List.mem_cons_of_mem _ member),
      find_insert, if_neg (missing state List.mem_cons_self)]

theorem find_extend_of_mem (store : Store) {states : List State} {state : State}
    (apart : states.Pairwise fun a b => a.key ≠ b.key) (member : state ∈ states) :
    (store.extend states).find? state.key = some state := by
  induction states generalizing store with
  | nil => cases member
  | cons first rest ih =>
    obtain ⟨fresh, others⟩ := List.pairwise_cons.mp apart
    rw [extend_cons]
    rcases List.mem_cons.mp member with rfl | later
    · rw [find_extend_of_missing _ fun other member => (fresh other member).symm, find_insert,
        if_pos rfl]
    · exact ih _ others later

end Store

theorem Mergers.Of.states_keys {height : Height} {reader : Reader} {batches : List Batch}
    {mergers : Mergers} {states : List State} (of : mergers.Of height reader batches)
    (closed : mergers.mapM (fun entry => entry.2.close) = .ok states) :
    states.map State.key = mergers.map Prod.fst :=
  Check.mapM_map
    (fun _ member _ written => (Merger.close_ok written).1.trans (of.after_of_mem member).2.key_eq)
    closed

theorem applyMerges_ascending {height : Height} {reader : Reader} {batches : List Batch}
    {states : List State} (written : applyMerges height batches reader = .ok states) :
    states.Pairwise fun a b => a.key < b.key := by
  obtain ⟨mergers, of, closed⟩ := applyMerges_ok written
  have ordered : (mergers.map Prod.fst).Pairwise (· < ·) := List.pairwise_map.mpr of.ascending
  rw [← of.states_keys closed] at ordered
  exact List.pairwise_map.mp ordered

theorem applyMerges_distinct {height : Height} {reader : Reader} {batches : List Batch}
    {states : List State} (written : applyMerges height batches reader = .ok states) :
    states.Pairwise fun a b => a.key ≠ b.key := by
  refine (applyMerges_ascending written).imp ?_
  intro a b below same
  rw [same] at below
  exact Std.lt_irrefl below

theorem applyMerges_entry {height : Height} {reader : Reader} {batches : List Batch}
    {states : List State} (written : applyMerges height batches reader = .ok states)
    (store : Store) (key : String) :
    ∃ entry, ((touches batches).filter fun touch => touch.2.key = key).foldlM
        (Table.changeEntry (mergeStep height reader)) none = .ok entry ∧
      Merger.EntryAfter reader height key (valuesAt key batches) entry ∧
      ((entry = none ∧ (store.extend states).find? key = store.find? key) ∨
        ∃ m state, entry = some m ∧ m.close = .ok state ∧
          (store.extend states).find? key = some state) := by
  have apart := applyMerges_distinct written
  unfold applyMerges at written
  obtain ⟨mergers, merged, closed⟩ := Check.bind_ok.mp written
  have of := mergers_of merged
  rw [mergeInto_update] at merged
  refine ⟨mergers.find? key, Table.foldlM_find merged key, of.after key, ?_⟩
  have after := of.after key
  cases found : mergers.find? key with
  | none =>
    rw [found] at after
    refine .inl ⟨rfl, Store.find_extend_of_missing _ fun state member same => ?_⟩
    obtain ⟨entry, held, ended⟩ := (Check.mapM_mem closed).2 state member
    have named : entry.1 = key :=
      ((of.after_of_mem held).2.key_eq.symm.trans (Merger.close_ok ended).1.symm).trans same
    exact (of.after_of_mem held).1 (named ▸ after)
  | some m =>
    rw [found] at after
    obtain ⟨state, member, ended⟩ := (Check.mapM_mem closed).1 (key, m) (Table.find_mem found)
    have named : state.key = key := (Merger.close_ok ended).1.trans after.2.key_eq
    exact .inr ⟨m, state, rfl, ended, named ▸ Store.find_extend_of_mem store apart member⟩

theorem applyMerges_find {height : Height} {reader : Reader} {batches : List Batch}
    {states : List State} (written : applyMerges height batches reader = .ok states)
    (store : Store) (key : String) :
    (valuesAt key batches = [] ∧ (store.extend states).find? key = store.find? key) ∨
      ∃ (m : Merger) (state : State), valuesAt key batches ≠ [] ∧
        m.After reader height key (valuesAt key batches) ∧ m.close = .ok state ∧
        (store.extend states).find? key = some state := by
  obtain ⟨entry, _, after, ⟨rfl, same⟩ | ⟨m, state, rfl, closed, found⟩⟩ :=
    applyMerges_entry written store key
  · exact .inl ⟨after, same⟩
  · exact .inr ⟨m, state, after.1, after.2, closed, found⟩

end SignedLedger

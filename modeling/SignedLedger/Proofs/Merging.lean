import SignedLedger.Proofs.MergeOrder

-- What a list of batches comes to, said without the mergers: which lists can be written,
-- and the one state of every key, with its exact balance and the operations behind it.
namespace SignedLedger
open Check

def operationsAt (key : String) (batches : List Batch) : List Digest :=
  ((batches.filter fun batch => batch.2.any fun value => value.key = key).map Prod.fst).eraseDups

section Operations
variable {operations : List Digest} {operation : Digest}

theorem pushOperation_twice :
    pushOperation (pushOperation operations operation) operation =
      pushOperation operations operation := by
  unfold pushOperation
  by_cases known : operation ∈ operations
  · simp [known]
  · simp [known]

theorem foldl_pushOperation (pushed : List Digest) :
    pushed.foldl pushOperation [] = pushed.eraseDups := by
  induction pushed using List.reverseRecOn with
  | nil => rfl
  | append_singleton earlier last ih =>
    rw [List.foldl_append, ih, List.foldl_cons, List.foldl_nil, List.eraseDups_append, pushOperation]
    by_cases known : last ∈ earlier
    · simp [known, List.removeAll]
    · simp [known, List.removeAll, List.eraseDups_cons]

theorem foldl_values (key : String) (values : List MergeValue) :
    ((values.filter fun value => value.key = key).map fun _ => operation).foldl pushOperation
        operations =
      if values.any (fun value => value.key = key) then pushOperation operations operation
        else operations := by
  induction values generalizing operations with
  | nil => rfl
  | cons value rest ih =>
    by_cases same : value.key = key
    · rw [List.filter_cons_of_pos (by simpa using same), List.map_cons, List.foldl_cons, ih,
        pushOperation_twice, ite_self]
      simp [same]
    · rw [List.filter_cons_of_neg (by simpa using same), ih]
      simp [same]

theorem gather_batches (key : String) (batches : List Batch) :
    gather operations (touchesAt key batches) =
      ((batches.filter fun batch => batch.2.any fun value => value.key = key).map Prod.fst).foldl
        pushOperation operations := by
  induction batches generalizing operations with
  | nil => rfl
  | cons batch rest ih =>
    have first : touchesAt key (batch :: rest) =
        (batch.2.filter fun value => value.key = key).map (fun value => (batch.1, value)) ++
          touchesAt key rest := by
      unfold touchesAt touches
      rw [List.flatMap_cons, List.filter_append, List.filter_map]
      rfl
    have split (one other : List (Digest × MergeValue)) :
        gather operations (one ++ other) = gather (gather operations one) other := by
      unfold gather
      rw [List.map_append, List.foldl_append]
    have here : gather operations
        ((batch.2.filter fun value => value.key = key).map fun value => (batch.1, value)) =
          if batch.2.any (fun value => value.key = key) then pushOperation operations batch.1
            else operations := by
      unfold gather
      rw [List.map_map]
      exact foldl_values key batch.2
    rw [first, split, here, ih]
    by_cases touched : batch.2.any (fun value => value.key = key) = true
    · rw [if_pos touched, List.filter_cons_of_pos (by exact touched), List.map_cons, List.foldl_cons]
    · rw [if_neg touched, List.filter_cons_of_neg (by exact touched)]

theorem gather_operationsAt (key : String) (batches : List Batch) :
    gather [] (touchesAt key batches) = operationsAt key batches := by
  rw [gather_batches, foldl_pushOperation, operationsAt]

end Operations

def committedAt (reader : Reader) (key : String) : Decimal :=
  match reader key with
  | .ok (some state) => state.value.held
  | _ => Decimal.zero

def closingAt (reader : Reader) (key : String) (values : List MergeValue) : ℚ :=
  (committedAt reader key).value + (values.map MergeValue.change).sum

-- Values of a key that go together: one and the same value that is set, or changes in the
-- currency of a balance key that has a balance or nothing, and which cover what they take.
inductive Mergeable (reader : Reader) (key : String) (values : List MergeValue) : Prop where
  | set (kinds : ∀ value ∈ values, value.kind = .set)
      (equal : ∀ value ∈ values, ∀ other ∈ values, value.value.agrees other.value = true)
  | balance {owner : Address} {currency : Currency} (kinds : ∀ value ∈ values, value.kind = .balance)
      (named : StateKey.readBalance? key = some (owner, currency))
      (own : ∀ value ∈ values, ∃ amount : Amount, amount.currency = currency ∧
        (value.value = .addBalance amount ∨ value.value = .deductBalance amount))
      (stored : ∀ state, reader key = .ok (some state) → ∃ amount, state.value = .balance amount)
      (covered : 0 ≤ closingAt reader key values)

-- What they come to: the value that is set, or the exact balance.
inductive ComesTo (reader : Reader) (key : String) (values : List MergeValue) : StateValue → Prop
  where
  | set {value : StateValue} (kinds : ∀ value ∈ values, value.kind = .set)
      (first : values.head?.map MergeValue.value = some value)
      (equal : ∀ other ∈ values, value.agrees other.value = true) : ComesTo reader key values value
  | balance {owner : Address} {amount : Amount} (kinds : ∀ value ∈ values, value.kind = .balance)
      (named : StateKey.readBalance? key = some (owner, amount.currency))
      (exact : amount.value.value = closingAt reader key values) :
      ComesTo reader key values (.balance amount)

def Summable (reader : Reader) (key : String) (values : List MergeValue) : Prop :=
  ∃ places ≤ Decimal.maxScale,
    Decimal.Fits places (committedAt reader key :: values.map MergeValue.moved)

section Key
variable {reader : Reader} {key : String} {values : List MergeValue}

theorem closingAt_units : closingAt reader key values =
    (((committedAt reader key).units + (values.map MergeValue.units).sum : Int) : ℚ) /
      Decimal.tenTo Decimal.maxScale := by
  have changes : (values.map MergeValue.change).sum =
      ((values.map MergeValue.units).sum : Int) / (Decimal.tenTo Decimal.maxScale : ℚ) := by
    induction values with
    | nil => simp
    | cons value rest ih =>
      rw [List.map_cons, List.sum_cons, ih, value.change_eq_units, List.map_cons, List.sum_cons]
      push_cast
      ring
  rw [closingAt, changes, Decimal.value_eq_units]
  push_cast
  ring

theorem closingAt_nonneg : 0 ≤ closingAt reader key values ↔
    0 ≤ (committedAt reader key).units + (values.map MergeValue.units).sum := by
  have scale : (0 : ℚ) < Decimal.tenTo Decimal.maxScale := by
    exact_mod_cast Decimal.tenTo_pos Decimal.maxScale
  rw [closingAt_units, le_div_iff₀ scale, zero_mul]
  exact Int.cast_nonneg_iff

-- Where they can be summed up, the sum of the changes is the exact one, and so is the
-- balance: it closes unless it is below zero.
theorem closing_exact (summable : Summable reader key values) {x : Int} :
    closing? (committedAt reader key).units values = some x ↔
      x = (committedAt reader key).units + (values.map MergeValue.units).sum ∧ 0 ≤ x := by
  obtain ⟨places, _, scaled, room⟩ := summable
  have wholes : ∀ change ∈ values.map MergeValue.units,
      (Decimal.tenTo (Decimal.maxScale - places) : Int) ∣ change := by
    intro change member
    obtain ⟨value, listed, rfl⟩ := List.mem_map.mp member
    exact MergeValue.units_whole
      (scaled value.moved (List.mem_cons_of_mem _ (List.mem_map_of_mem listed)))
  rw [List.map_cons, List.sum_cons, ← MergeValue.sum_natAbs_units] at room
  have summed := Decimal.running_exact (Int.dvd_zero _) wholes (by rw [Int.natAbs_zero]; omega)
  rw [Int.zero_add] at summed
  have smaller := List.le_sum_of_subadditive Int.natAbs Int.natAbs_zero.le Int.natAbs_add_le
    (values.map MergeValue.units)
  have added := Int.natAbs_add_le (committedAt reader key).units (values.map MergeValue.units).sum
  have total : Decimal.total?
      ((committedAt reader key).units + (values.map MergeValue.units).sum) = some _ :=
    Decimal.total_exact (Nat.sub_le _ places)
      (Int.dvd_add (Decimal.units_whole (scaled _ List.mem_cons_self)) (List.dvd_sum wholes))
      (by omega)
  rw [closing_some]
  constructor
  · rintro ⟨delta, same, closed, nonneg⟩
    cases summed.symm.trans same
    exact ⟨Option.some.inj (closed.symm.trans total), nonneg⟩
  · rintro ⟨rfl, nonneg⟩
    exact ⟨_, summed, total, nonneg⟩

theorem committedAt_of_read {stored : Option Decimal}
    (read : Lookup.balanceByKey reader key = .ok stored) :
    committedAt reader key = stored.getD Decimal.zero := by
  unfold Lookup.balanceByKey Lookup.read Lookup.typed at read
  unfold committedAt
  cases found : reader key with
  | error fault =>
    rw [found] at read
    cases read
  | ok existing =>
    rw [found] at read
    cases existing with
    | none =>
      cases read
      rfl
    | some state =>
      dsimp only [bind, Except.bind] at read ⊢
      cases held : state.value with
      | balance amount =>
        rw [held] at read
        cases read
        rfl
      | _ => simp [held] at read

theorem balanceByKey_exact (readable : ∃ found, reader key = .ok found) :
    (∃ stored, Lookup.balanceByKey reader key = .ok stored) ↔
      ∀ state, reader key = .ok (some state) → ∃ amount, state.value = .balance amount := by
  obtain ⟨existing, found⟩ := readable
  unfold Lookup.balanceByKey Lookup.read Lookup.typed
  rw [found]
  cases existing with
  | none => exact iff_of_true ⟨none, rfl⟩ (by simp)
  | some state =>
    simp only [bind, Except.bind, Except.ok.injEq, Option.some.injEq, forall_eq']
    cases held : state.value <;> simp

theorem MergeValue.own_currency {value : MergeValue} {owner : Address} {currency : Currency}
    (balanced : value.kind = .balance)
    (named : StateKey.readBalance? value.key = some (owner, currency)) :
    ∃ amount : Amount, amount.currency = currency ∧
      (value.value = .addBalance amount ∨ value.value = .deductBalance amount) := by
  cases value with
  | set _ _ => cases balanced
  | credit a amount =>
    rw [key, StateKey.readBalance_balance] at named
    cases named
    exact ⟨amount, rfl, .inl rfl⟩
  | debit a amount =>
    rw [key, StateKey.readBalance_balance] at named
    cases named
    exact ⟨amount, rfl, .inr rfl⟩

theorem Mergeable.settled (mergeable : Mergeable reader key values)
    (readable : ∃ found, reader key = .ok found) (touched : values ≠ [])
    (same : ∀ value ∈ values, value.key = key)
    (summable : (∀ value ∈ values, value.kind = .balance) → Summable reader key values) :
    ∃ value, Settled reader key values value := by
  cases mergeable with
  | set kinds equal =>
    obtain ⟨first, rest, rfl⟩ := List.exists_cons_of_ne_nil touched
    exact ⟨first.value, .set kinds rfl (equal first List.mem_cons_self) readable⟩
  | balance kinds named own stored covered =>
    obtain ⟨held, read⟩ := (balanceByKey_exact readable).mpr stored
    have closed := (closing_exact (summable kinds)).mpr ⟨rfl, closingAt_nonneg.mp covered⟩
    rw [committedAt_of_read read] at closed
    obtain ⟨amount, settled, _⟩ := (settled_closing touched kinds same read).mp closed
    exact ⟨_, settled⟩

theorem Settled.exact {value : StateValue} (settled : Settled reader key values value)
    (touched : values ≠ []) (same : ∀ value ∈ values, value.key = key)
    (summable : (∀ value ∈ values, value.kind = .balance) → Summable reader key values) :
    Mergeable reader key values ∧ ComesTo reader key values value := by
  cases id settled with
  | set kinds head agree readable =>
    refine ⟨.set kinds fun one member other member' => ?_, .set kinds head agree⟩
    exact StateValue.agrees_common (agree one member) (agree other member')
  | @balance owner currency stored delta total _ kinds named read _ _ _ =>
    obtain ⟨first, listed⟩ := List.exists_mem_of_ne_nil values touched
    have readable : ∃ found, reader key = .ok found := by
      unfold Lookup.balanceByKey Lookup.read at read
      obtain ⟨existing, found, _⟩ := bind_ok.mp read
      exact ⟨existing, found⟩
    have closed := (settled_closing touched kinds same read).mpr ⟨_, settled, rfl⟩
    rw [← committedAt_of_read read, closing_exact (summable kinds)] at closed
    obtain ⟨exact, nonneg⟩ := closed
    refine ⟨.balance kinds named (fun value member => ?_) ((balanceByKey_exact readable).mp ⟨_, read⟩)
      (closingAt_nonneg.mpr (exact ▸ nonneg)), .balance kinds named ?_⟩
    · exact MergeValue.own_currency (kinds value member) (by rwa [same value member])
    · rw [closingAt_units, ← exact, Decimal.value_eq_units]

end Key

structure Written (height : Height) (reader : Reader) (batches : List Batch) (states : List State) :
    Prop where
  ascending : states.Pairwise fun a b => a.key < b.key
  touched : ∀ key, key ∈ states.map State.key ↔ valuesAt key batches ≠ []
  height_eq : ∀ state ∈ states, state.height = height
  value : ∀ state ∈ states, ComesTo reader state.key (valuesAt state.key batches) state.value
  operations : ∀ state ∈ states, state.operations = operationsAt state.key batches

-- Batches over a reader that never fails, with balances that can all be summed up without
-- rounding: they can be written exactly when under every key the values go together, and
-- then just these states are written.
theorem merging_exact (height : Height) {reader : Reader} {batches : List Batch}
    (readable : ∀ key, ∃ found, reader key = .ok found)
    (summable : ∀ a c, Summable reader (StateKey.balance a c)
      (valuesAt (StateKey.balance a c) batches)) :
    ((∃ states, applyMerges height batches reader = .ok states) ↔
      ∀ key, valuesAt key batches ≠ [] → Mergeable reader key (valuesAt key batches)) ∧
    ∀ states, applyMerges height batches reader = .ok states →
      Written height reader batches states := by
  have same (key : String) : ∀ value ∈ valuesAt key batches, value.key = key := by
    intro value member
    simpa using (List.mem_filter.mp member).2
  have summing {key : String} (touched : valuesAt key batches ≠ [])
      (kinds : ∀ value ∈ valuesAt key batches, value.kind = .balance) :
      Summable reader key (valuesAt key batches) := by
    obtain ⟨value, member⟩ := List.exists_mem_of_ne_nil _ touched
    have named : ∃ a c, value.key = StateKey.balance a c := by
      cases value with
      | set _ _ => cases kinds _ member
      | credit a amount => exact ⟨a, amount.currency, rfl⟩
      | debit a amount => exact ⟨a, amount.currency, rfl⟩
    obtain ⟨a, c, balance⟩ := named
    rw [same key value member] at balance
    rw [balance]
    exact summable a c
  refine ⟨?_, fun states written => ?_⟩
  · rw [applyMerges_writes]
    refine forall_congr' fun key => imp_congr_right fun touched => ⟨?_, fun mergeable => ?_⟩
    · rintro ⟨value, settled⟩
      exact (settled.exact touched (same key) (summing touched)).1
    · exact mergeable.settled (readable key) touched (same key) (summing touched)
  · refine ⟨applyMerges_ascending written, fun key => applyMerges_keys written, ?_, ?_, ?_⟩
    all_goals
      intro state member
      obtain ⟨touched, height, settled, operations⟩ := (applyMerges_states written).mp member
    · exact height
    · exact (settled.exact touched (same state.key) (summing touched)).2
    · rw [operations, gather_operationsAt]

theorem committedAt_store (store : Store) (key : String) :
    committedAt store.reader key ∈ Decimal.zero :: store.states.map fun state => state.value.held := by
  unfold committedAt Store.reader
  cases found : store.find? key with
  | none => exact List.mem_cons_self
  | some state =>
    exact List.mem_cons_of_mem _ (List.mem_map_of_mem (List.mem_of_find?_eq_some found))

namespace Sample

def returning : List Batch :=
  [(mark 1, [.debit alice (amount 105 1), .credit bob (amount 105 1)]),
    (mark 2, [.credit alice (amount 7 2), .debit bob (amount 7 2)]),
    (mark 1, [.credit alice (amount 1 0), .set (StateKey.account carol)
      (.account (Account.keyless carol))])]

def returned : List State :=
  (applyMerges ⟨2⟩ returning plainLedger.reader).toOption.getD []

end Sample

set_option maxRecDepth 100000 in
theorem merging_exact_returning :
    applyMerges ⟨2⟩ Sample.returning Sample.plainLedger.reader = .ok Sample.returned ∧
      ∃ state ∈ Sample.returned, state.key = StateKey.balance Sample.alice Sample.coin ∧
        (∃ amount, state.value = .balance amount ∧ amount.value.value = 9057 / 100) ∧
        state.operations = [Sample.mark 1, Sample.mark 2] := by
  have done : applyMerges ⟨2⟩ Sample.returning Sample.plainLedger.reader = .ok Sample.returned := by
    decide +kernel
  have fits : ∀ held ∈ Decimal.zero :: Sample.plainLedger.states.map (fun state => state.value.held),
      Decimal.Fits 2
        (held :: ((Sample.returning.flatMap Prod.snd).map MergeValue.moved)) := by decide +kernel
  have written := (merging_exact ⟨2⟩ (fun key => ⟨_, rfl⟩) fun a c => ⟨2, by decide,
    (fits _ (committedAt_store Sample.plainLedger _)).sublist
      ((List.filter_sublist.map _).cons_cons _)⟩).2 _ done
  have touched : valuesAt (StateKey.balance Sample.alice Sample.coin) Sample.returning ≠ [] := by
    decide +kernel
  obtain ⟨state, member, key⟩ := List.mem_map.mp ((written.touched _).mpr touched)
  have value := written.value state member
  have operations := written.operations state member
  rw [key] at value operations
  refine ⟨done, state, member, key, ?_, ?_⟩
  · generalize state.value = final at value
    cases value with
    | set kinds _ _ =>
      have changes : ∀ value ∈ valuesAt (StateKey.balance Sample.alice Sample.coin)
          Sample.returning, value.kind = .balance := by decide +kernel
      exact (kinds_apart touched changes kinds).elim
    | @balance _ amount _ _ exact =>
      refine ⟨amount, rfl, exact.trans ?_⟩
      decide +kernel
  · rw [operations]
    decide +kernel

end SignedLedger

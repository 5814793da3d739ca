import Mathlib.Algebra.BigOperators.Group.Finset.Piecewise
import Mathlib.Algebra.BigOperators.Ring.List
import SignedLedger.Proofs.Pipeline.Consistency
import SignedLedger.Proofs.State.Store

-- The money of a ledger: all that its accounts hold of one currency. A written
-- block changes it by what the block's changes come to, and by what rounding adds.
namespace SignedLedger

namespace StateKey

def currency? (key : String) : Option Currency := (readBalance? key).map Prod.snd

theorem currency_balance (a : Address) (c : Currency) : currency? (balance a c) = some c := by
  rw [currency?, readBalance_balance]
  rfl

theorem isBalance_of_currency {key : String} {c : Currency} (named : currency? key = some c) :
    isBalance key = true := by
  obtain ⟨owner, read, _⟩ := Option.map_eq_some_iff.mp named
  exact isBalance_of_read read

end StateKey

namespace MergeValue

def change : MergeValue → ℚ
  | .credit _ amount => amount.value.value
  | .debit _ amount => -amount.value.value
  | .set _ _ => 0

def changeIn (c : Currency) : MergeValue → ℚ
  | .credit _ amount => if amount.currency = c then amount.value.value else 0
  | .debit _ amount => if amount.currency = c then -amount.value.value else 0
  | .set _ _ => 0

def moved : MergeValue → Decimal
  | .credit _ amount => amount.value
  | .debit _ amount => amount.value
  | .set _ _ => Decimal.zero

theorem units_moved (value : MergeValue) :
    value.units = value.moved.units ∨ value.units = -value.moved.units := by
  cases value with
  | credit _ _ => exact .inl rfl
  | debit _ _ => exact .inr rfl
  | set _ _ => exact .inl Decimal.units_zero.symm

theorem natAbs_units (value : MergeValue) : value.units.natAbs = value.moved.units.natAbs :=
  Int.natAbs_eq_natAbs_iff.mpr value.units_moved

theorem units_whole {value : MergeValue} {s : Nat} (scaled : value.moved.scale ≤ s) :
    (Decimal.tenTo (Decimal.maxScale - s) : Int) ∣ value.units := by
  have whole := Decimal.units_whole scaled
  rcases value.units_moved with same | negated
  · rwa [same]
  · rwa [negated, Int.dvd_neg]

theorem sum_natAbs_units (values : List MergeValue) :
    ((values.map units).map Int.natAbs).sum =
      ((values.map moved).map fun a => a.units.natAbs).sum := by
  rw [List.map_map, List.map_map]
  exact congrArg List.sum (List.map_congr_left fun value _ => value.natAbs_units)

theorem change_eq_units (value : MergeValue) :
    value.change = value.units / Decimal.tenTo Decimal.maxScale := by
  cases value with
  | credit _ amount => exact amount.value.value_eq_units
  | debit _ amount =>
    rw [change, units, amount.value.value_eq_units]
    push_cast
    ring
  | set _ _ => simp [change, units]

theorem changeIn_eq (c : Currency) (value : MergeValue) :
    value.changeIn c = if StateKey.currency? value.key = some c then value.change else 0 := by
  cases value with
  | credit a amount => simp only [changeIn, key, StateKey.currency_balance, Option.some.injEq, change]
  | debit a amount => simp only [changeIn, key, StateKey.currency_balance, Option.some.injEq, change]
  | set _ _ => simp only [changeIn, change, ite_self]

end MergeValue

def netIn (c : Currency) (values : List MergeValue) : ℚ :=
  (values.map (MergeValue.changeIn c)).sum

theorem netIn_append (c : Currency) (values more : List MergeValue) :
    netIn c (values ++ more) = netIn c values + netIn c more := by
  rw [netIn, List.map_append, List.sum_append]
  rfl

-- What rounding adds when changes are summed up and put to a balance.
def writeRounding (committed : Decimal) (changes : List MergeValue) : ℚ :=
  Decimal.accumulated MergeValue.applyTo MergeValue.change Decimal.zero changes +
    match changes.foldlM MergeValue.applyTo Decimal.zero with
    | none => 0
    | some delta => Decimal.accumulated Decimal.add? Decimal.value committed [delta]

def touchedIn (c : Currency) (batches : List Batch) : Finset String :=
  ((batches.flatMap Prod.snd).map MergeValue.key).toFinset.filter
    fun key => StateKey.currency? key = some c

theorem mem_touchedIn {c : Currency} {batches : List Batch} {key : String} :
    key ∈ touchedIn c batches ↔ valuesAt key batches ≠ [] ∧ StateKey.currency? key = some c := by
  unfold touchedIn valuesAt
  rw [Finset.mem_filter, List.mem_toFinset, List.mem_map, Ne, List.filter_eq_nil_iff]
  simp only [decide_eq_true_eq, not_forall, not_not, exists_prop]

theorem sum_changes {c : Currency} {values : List MergeValue} {keys : Finset String}
    (named : ∀ key ∈ keys, StateKey.currency? key = some c)
    (within : ∀ value ∈ values, StateKey.currency? value.key = some c → value.key ∈ keys) :
    ∑ key ∈ keys, ((values.filter fun value => value.key = key).map MergeValue.change).sum =
      netIn c values := by
  induction values with
  | nil => simp [netIn]
  | cons value rest ih =>
    have later := ih fun other member => within other (List.mem_cons_of_mem _ member)
    have own : (∑ key ∈ keys, if value.key = key then value.change else 0) = value.changeIn c := by
      rw [Finset.sum_ite_eq, MergeValue.changeIn_eq]
      exact if_congr ⟨named value.key, within value List.mem_cons_self⟩ rfl rfl
    rw [netIn, List.map_cons, List.sum_cons, ← own, ← netIn, ← later, ← Finset.sum_add_distrib]
    refine Finset.sum_congr rfl fun key _ => ?_
    by_cases same : value.key = key
    · simp [same]
    · simp [same]

namespace Store

def accountsOf (store : Store) (c : Currency) : Finset String :=
  (store.states.map State.key).toFinset.filter fun key => StateKey.currency? key = some c

def total (store : Store) (c : Currency) : ℚ :=
  ∑ key ∈ store.accountsOf c, (store.holding key).value

theorem holding_of_missing {store : Store} {key : String} {c : Currency}
    (named : StateKey.currency? key = some c) (missing : key ∉ store.accountsOf c) :
    store.holding key = Decimal.zero := by
  have absent : store.find? key = none := by
    refine List.find?_eq_none.mpr fun state member same => missing ?_
    have held : state.key = key := by simpa using same
    exact Finset.mem_filter.mpr
      ⟨List.mem_toFinset.mpr (List.mem_map.mpr ⟨state, member, held⟩), named⟩
  rw [holding, absent]

theorem total_eq_sum {store : Store} {c : Currency} {keys : Finset String}
    (within : store.accountsOf c ⊆ keys) (named : ∀ key ∈ keys, StateKey.currency? key = some c) :
    store.total c = ∑ key ∈ keys, (store.holding key).value := by
  refine Finset.sum_subset within fun key member missing => ?_
  rw [holding_of_missing (named key member) missing, Decimal.value_zero]

end Store

theorem writeRounding_exact {committed : Decimal} {changes : List MergeValue} {s : Nat}
    (fits : Decimal.Fits s (committed :: changes.map MergeValue.moved)) :
    writeRounding committed changes = 0 := by
  obtain ⟨scaled, room⟩ := fits
  have sizes : ((changes.map MergeValue.moved).map fun a => a.units.natAbs) =
      changes.map fun value => value.units.natAbs := by
    rw [List.map_map]
    exact List.map_congr_left fun value _ => value.natAbs_units.symm
  rw [List.map_cons, List.sum_cons, sizes] at room
  have whole : ∀ value ∈ changes, (Decimal.tenTo (Decimal.maxScale - s) : Int) ∣ value.units :=
    fun value member => MergeValue.units_whole
      (scaled value.moved (List.mem_cons_of_mem _ (List.mem_map_of_mem member)))
  have start : (Decimal.tenTo (Decimal.maxScale - s) : Int) ∣ Decimal.zero.units := by
    rw [Decimal.units_zero]
    exact Int.dvd_zero _
  obtain ⟨none, exact⟩ := Decimal.accumulated_exact (s := s)
    (fun _ _ _ stepped => applyTo_rounds stepped) MergeValue.change_eq_units start whole (by
      rw [Decimal.units_zero]
      omega)
  rw [writeRounding, none, zero_add]
  split
  · rfl
  · rename_i delta summed
    have sum := exact delta summed
    rw [Decimal.units_zero, zero_add] at sum
    have smaller : delta.units.natAbs ≤ (changes.map fun value => value.units.natAbs).sum := by
      rw [sum]
      have bound := List.le_sum_of_subadditive Int.natAbs Int.natAbs_zero.le Int.natAbs_add_le
        (changes.map MergeValue.units)
      rwa [List.map_map] at bound
    have divides : (Decimal.tenTo (Decimal.maxScale - s) : Int) ∣ delta.units := by
      rw [sum]
      refine List.dvd_sum fun size member => ?_
      obtain ⟨value, listed, rfl⟩ := List.mem_map.mp member
      exact whole value listed
    exact (Decimal.accumulated_exact (s := s) (fun _ _ _ added => Decimal.add_rounds added)
      Decimal.value_eq_units (Decimal.units_whole (scaled committed List.mem_cons_self))
      (by simpa using divides) (by simp; omega)).1

section Written
variable {height : Height} {batches : List Batch} {store : Store} {states : List State}

theorem writeRounding_nil (committed : Decimal) : writeRounding committed [] = 0 := by
  have exact : Decimal.accumulated Decimal.add? Decimal.value committed [Decimal.zero] = 0 := by
    rw [Decimal.accumulated]
    cases added : committed.add? Decimal.zero with
    | none => rfl
    | some kept =>
      have rounded := Decimal.add_rounds added
      rw [Decimal.units_zero, Int.add_zero] at rounded
      have same := rounded.exact committed.units_dvd committed.units_room
      dsimp only
      rw [Decimal.accumulated, Decimal.value_zero, kept.value_eq_units, committed.value_eq_units, same]
      ring
  rw [writeRounding, List.foldlM_nil, Decimal.accumulated, zero_add]
  exact exact

-- A balance after a block: what it was, all changes of it, and the rounding.
theorem holding_extend (written : applyMerges height batches store.reader = .ok states)
    {key : String} (kinds : ∀ value ∈ valuesAt key batches, value.kind = .balance) :
    ((store.extend states).holding key).value =
      (store.holding key).value + ((valuesAt key batches).map MergeValue.change).sum +
        writeRounding (store.holding key) (valuesAt key batches) := by
  rcases applyMerges_find written store key with
    ⟨none, found⟩ | ⟨m, state, touched, after, closed, found⟩
  · rw [none, writeRounding_nil, Store.holding, found, Store.holding]
    simp
  · obtain ⟨_, _, _, value⟩ := Merger.close_ok closed
    cases after with
    | set _ others _ =>
      obtain ⟨first, member⟩ := List.exists_mem_of_ne_nil _ touched
      have balance := kinds first member
      rw [others first member] at balance
      cases balance
    | @balance _ merger _ sums =>
      obtain ⟨stored, read, committed⟩ := sums.committed
      rw [← Store.holding_of_read read] at committed
      obtain ⟨total, added, _, same⟩ := Merger.closeBalance_ok value
      have last : ((store.extend states).holding key) = total := by
        rw [Store.holding, found]
        dsimp only
        rw [same]
        rfl
      have single : [merger.delta].foldlM Decimal.add? merger.committed = some total := by
        rw [List.foldlM_cons, added]
        rfl
      have closing := Decimal.foldlM_accumulated Decimal.value single
      have changes := Decimal.foldlM_accumulated MergeValue.change sums.delta
      rw [last, closing, writeRounding, sums.delta, ← committed]
      dsimp only
      rw [List.map_singleton, List.sum_singleton, changes, Decimal.value_zero]
      ring

def roundingIn (store : Store) (batches : List Batch) (c : Currency) : ℚ :=
  ∑ key ∈ touchedIn c batches, writeRounding (store.holding key) (valuesAt key batches)

theorem total_extend (written : applyMerges height batches store.reader = .ok states)
    (kinds : ∀ value ∈ batches.flatMap Prod.snd,
      StateKey.isBalance value.key = true → value.kind = .balance) (c : Currency) :
    (store.extend states).total c =
      store.total c + netIn c (batches.flatMap Prod.snd) + roundingIn store batches c := by
  -- All sums are taken over the same keys; those that add nothing do no harm.
  let keys := store.accountsOf c ∪ (store.extend states).accountsOf c ∪ touchedIn c batches
  have before : store.accountsOf c ⊆ keys := fun key member => by simp [keys, member]
  have after : (store.extend states).accountsOf c ⊆ keys := fun key member => by
    simp [keys, member]
  have touched : touchedIn c batches ⊆ keys := Finset.subset_union_right
  have named : ∀ key ∈ keys, StateKey.currency? key = some c := by
    intro key member
    rcases Finset.mem_union.mp member with stored | written
    · rcases Finset.mem_union.mp stored with old | new
      · exact (Finset.mem_filter.mp old).2
      · exact (Finset.mem_filter.mp new).2
    · exact (mem_touchedIn.mp written).2
  have changes : ∑ key ∈ keys, ((valuesAt key batches).map MergeValue.change).sum =
      netIn c (batches.flatMap Prod.snd) := by
    refine sum_changes named fun value member same => touched (mem_touchedIn.mpr ⟨?_, same⟩)
    exact List.ne_nil_of_mem (List.mem_filter.mpr ⟨member, by simp⟩)
  have rounding : ∑ key ∈ keys, writeRounding (store.holding key) (valuesAt key batches) =
      roundingIn store batches c := by
    refine (Finset.sum_subset touched fun key member quiet => ?_).symm
    have none : valuesAt key batches = [] := by
      by_contra some
      exact quiet (mem_touchedIn.mpr ⟨some, named key member⟩)
    rw [none, writeRounding_nil]
  rw [Store.total_eq_sum after named, Store.total_eq_sum before named, ← changes, ← rounding,
    ← Finset.sum_add_distrib, ← Finset.sum_add_distrib]
  refine Finset.sum_congr rfl fun key member => holding_extend written fun value listed => ?_
  obtain ⟨inside, same⟩ := List.mem_filter.mp listed
  have equal : value.key = key := by simpa using same
  exact kinds value inside (equal ▸ StateKey.isBalance_of_currency (named key member))

end Written

end SignedLedger

import Mathlib.Data.List.Forall2
import Mathlib.Data.List.Sort
import SignedLedger.Proofs.Sample
import SignedLedger.Proofs.State.Closing
import SignedLedger.Proofs.State.Total

-- The order in which values are merged. It shows in nothing but the roundings of the
-- sums at a balance key: keys, heights, operations and values that are set are the same
-- in every order, and so are the balances as long as nothing has to be rounded.
namespace SignedLedger
open Check

def singly (list : List (Digest × MergeValue)) : List Batch :=
  list.map fun touch => (touch.1, [touch.2])

def touching (key : String) (list : List (Digest × MergeValue)) : List MergeValue :=
  (list.filter fun touch => touch.2.key = key).map Prod.snd

structure State.Alike (a b : State) : Prop where
  key : a.key = b.key
  height : a.height = b.height
  value : a.value.agrees b.value = true
  here : a.operations ⊆ b.operations
  there : b.operations ⊆ a.operations

instance (a b : State) : Decidable (a.Alike b) :=
  decidable_of_iff (a.key = b.key ∧ a.height = b.height ∧ a.value.agrees b.value = true ∧
      a.operations ⊆ b.operations ∧ b.operations ⊆ a.operations)
    ⟨fun ⟨key, height, value, here, there⟩ => ⟨key, height, value, here, there⟩,
      fun ⟨key, height, value, here, there⟩ => ⟨key, height, value, here, there⟩⟩

def MergedAlike : Except Fault (List State) → Except Fault (List State) → Prop
  | .ok states, .ok others => List.Forall₂ State.Alike states others
  | .error _, .error _ => True
  | _, _ => False

instance (merged other : Except Fault (List State)) : Decidable (MergedAlike merged other) :=
  match merged, other with
  | .ok states, .ok others => inferInstanceAs (Decidable (List.Forall₂ State.Alike states others))
  | .error _, .error _ => .isTrue trivial
  | .ok _, .error _ => .isFalse id
  | .error _, .ok _ => .isFalse id

def ClosesAlike (reader : Reader) (list other : List (Digest × MergeValue)) (key : String) : Prop :=
  ∀ stored, Lookup.balanceByKey reader key = .ok stored →
    closing? (stored.getD Decimal.zero).units (touching key list) =
      closing? (stored.getD Decimal.zero).units (touching key other)

theorem touches_singly (list : List (Digest × MergeValue)) : touches (singly list) = list := by
  simp [touches, singly, List.flatMap_map]

theorem valuesAt_singly (key : String) (list : List (Digest × MergeValue)) :
    valuesAt key (singly list) = touching key list := by
  rw [← touches_at, touches_singly, touching]

theorem mem_touching {key : String} {list : List (Digest × MergeValue)} {value : MergeValue}
    (member : value ∈ touching key list) : value.key = key := by
  obtain ⟨touch, within, rfl⟩ := List.mem_map.mp member
  simpa using (List.mem_filter.mp within).2

section Permuted
variable {reader : Reader} {height : Height} {list other : List (Digest × MergeValue)}

theorem touching_perm (permuted : other.Perm list) (key : String) :
    (touching key other).Perm (touching key list) :=
  (permuted.filter _).map _

theorem touching_nil (permuted : other.Perm list) {key : String} :
    touching key other = [] ↔ touching key list = [] := by
  have lengths := (touching_perm permuted key).length_eq
  rw [← List.length_eq_zero_iff, ← List.length_eq_zero_iff, lengths]

theorem Settled.reordered {key : String} {values others : List MergeValue} {value : StateValue}
    (settled : Settled reader key values value) (permuted : others.Perm values)
    (same : ∀ value ∈ values, value.key = key)
    (closes : ∀ stored, Lookup.balanceByKey reader key = .ok stored →
      (∀ value ∈ values, value.kind = .balance) →
      closing? (stored.getD Decimal.zero).units values =
        closing? (stored.getD Decimal.zero).units others) :
    ∃ value', Settled reader key others value' ∧ value.agrees value' = true := by
  have within : ∀ value ∈ others, value ∈ values := fun _ member => permuted.mem_iff.mp member
  cases id settled with
  | set kinds head agree readable =>
    cases others with
    | nil =>
      rw [← permuted.nil_eq] at head
      cases head
    | cons first rest =>
      have leads := agree first (within first List.mem_cons_self)
      exact ⟨first.value, .set (fun other member => kinds other (within other member)) rfl
        (fun other member => StateValue.agrees_common leads (agree other (within other member)))
        readable, leads⟩
  | @balance owner currency _ _ total touched kinds named read _ _ _ =>
    have closed := (settled_closing touched kinds same read).mpr ⟨_, settled, rfl⟩
    rw [closes _ read kinds] at closed
    have touched' : others ≠ [] := fun none => touched (none ▸ permuted).nil_eq.symm
    have balance : ∀ value ∈ others, value.kind = .balance :=
      fun other member => kinds other (within other member)
    obtain ⟨amount, settled', units⟩ := (settled_closing touched' balance
      (fun other member => same other (within other member)) read).mp closed
    refine ⟨_, settled', ?_⟩
    cases settled' with
    | set kinds' _ _ _ => exact (kinds_apart touched' balance kinds').elim
    | balance _ _ named' _ _ _ _ =>
      cases named.symm.trans named'
      simpa [StateValue.agrees, Amount.agrees, Decimal.same_iff_units] using units.symm

theorem alike_each {states others : List State} (keys : states.map State.key = others.map State.key)
    (each : ∀ a ∈ states, ∀ b ∈ others, a.key = b.key → a.Alike b) :
    List.Forall₂ State.Alike states others := by
  induction states generalizing others with
  | nil =>
    cases others with
    | nil => exact .nil
    | cons _ _ => cases keys
  | cons a rest ih =>
    cases others with
    | nil => cases keys
    | cons b rest' =>
      obtain ⟨head, tail⟩ := List.cons.inj keys
      refine .cons (each a List.mem_cons_self b List.mem_cons_self head) (ih tail ?_)
      exact fun x member y member' =>
        each x (List.mem_cons_of_mem _ member) y (List.mem_cons_of_mem _ member')

theorem gather_subset (permuted : other.Perm list) (key : String) :
    gather [] (touchesAt key (singly other)) ⊆ gather [] (touchesAt key (singly list)) := by
  intro operation member
  rw [mem_gather, touchesAt, touches_singly] at member ⊢
  exact member.imp id fun listed => ((permuted.filter _).map _).mem_iff.mp listed

-- A list that can be written can be written in every other order, if its balances close
-- in the same way.
theorem writes_reordered (permuted : other.Perm list)
    (closes : ∀ key, (∀ value ∈ touching key list, value.kind = .balance) →
      ClosesAlike reader list other key) {states : List State}
    (written : applyMerges height (singly list) reader = .ok states) :
    ∃ states', applyMerges height (singly other) reader = .ok states' ∧
      List.Forall₂ State.Alike states states' := by
  have reordered {key : String} {value : StateValue}
      (settled : Settled reader key (touching key list) value) :=
    settled.reordered (touching_perm permuted key) (fun _ => mem_touching)
      fun stored read kinds => closes key kinds stored read
  obtain ⟨states', written'⟩ : ∃ states', applyMerges height (singly other) reader = .ok states' := by
    rw [applyMerges_writes]
    intro key touched
    rw [valuesAt_singly, Ne, touching_nil permuted, ← valuesAt_singly] at touched
    obtain ⟨value, settled, _⟩ := applyMerges_at written touched
    rw [valuesAt_singly] at settled ⊢
    obtain ⟨value', settled', _⟩ := reordered settled
    exact ⟨value', settled'⟩
  have ordered := List.pairwise_map.mpr (applyMerges_ascending written)
  have ordered' := List.pairwise_map.mpr (applyMerges_ascending written')
  have keys : states.map State.key = states'.map State.key :=
    ordered.eq_of_mem_iff ordered' fun key => by
      rw [applyMerges_keys written, applyMerges_keys written', valuesAt_singly, valuesAt_singly, Ne,
        Ne, touching_nil permuted]
  refine ⟨states', written', alike_each keys fun a member b member' same => ?_⟩
  obtain ⟨_, height, settled, operations⟩ := (applyMerges_states written).mp member
  obtain ⟨_, height', settled', operations'⟩ := (applyMerges_states written').mp member'
  rw [valuesAt_singly] at settled settled'
  obtain ⟨value, again, agree⟩ := reordered settled
  rw [← same] at settled' operations'
  cases again.unique settled'
  refine ⟨same, height.trans height'.symm, agree, ?_, ?_⟩
  · rw [operations, operations']
    exact gather_subset permuted.symm a.key
  · rw [operations, operations']
    exact gather_subset permuted a.key

theorem alike_mem {states others : List State} (each : List.Forall₂ State.Alike states others)
    {a : State} (member : a ∈ states) : ∃ b ∈ others, a.Alike b := by
  induction each with
  | nil => cases member
  | @cons _ b _ _ alike _ ih =>
    rcases List.mem_cons.mp member with rfl | later
    · exact ⟨b, List.mem_cons_self, alike⟩
    · obtain ⟨b, within, alike⟩ := ih later
      exact ⟨b, List.mem_cons_of_mem _ within, alike⟩

theorem closes_of_alike (permuted : other.Perm list) {states states' : List State}
    (written : applyMerges height (singly list) reader = .ok states)
    (written' : applyMerges height (singly other) reader = .ok states')
    (each : List.Forall₂ State.Alike states states') {key : String}
    (kinds : ∀ value ∈ touching key list, value.kind = .balance) :
    ClosesAlike reader list other key := by
  intro stored read
  by_cases touched : touching key list = []
  · rw [touched, (touching_nil permuted).mpr touched]
  have touched' : touching key other ≠ [] := fun none => touched ((touching_nil permuted).mp none)
  rw [← valuesAt_singly] at touched
  obtain ⟨value, settled, listed⟩ := applyMerges_at written touched
  obtain ⟨b, listed', same, _, agree, _⟩ := alike_mem each listed
  obtain ⟨_, _, settled', _⟩ := (applyMerges_states written').mp listed'
  rw [← same, valuesAt_singly] at settled'
  rw [valuesAt_singly] at settled touched
  obtain ⟨amount, rfl, ending⟩ := settled.closes_from touched kinds (fun _ => mem_touching) read
  obtain ⟨amount', held, ending'⟩ := settled'.closes_from touched'
    (fun value member => kinds value ((touching_perm permuted key).mem_iff.mp member))
    (fun _ => mem_touching) read
  rw [held] at agree
  simp only [StateValue.agrees, Amount.agrees, Bool.and_eq_true, decide_eq_true_eq,
    Decimal.same_iff_units] at agree
  rw [ending, ending', agree.2]

theorem merged_alike (permuted : other.Perm list)
    (closes : ∀ key, (∀ value ∈ touching key list, value.kind = .balance) →
      ClosesAlike reader list other key) :
    MergedAlike (applyMerges height (singly list) reader) (applyMerges height (singly other) reader) := by
  have back : ∀ key, (∀ value ∈ touching key other, value.kind = .balance) →
      ClosesAlike reader other list key := by
    intro key kinds stored read
    refine (closes key (fun value member => kinds value ?_) stored read).symm
    exact (touching_perm permuted key).mem_iff.mpr member
  cases merged : applyMerges height (singly list) reader with
  | ok states =>
    obtain ⟨states', merged', each⟩ := writes_reordered permuted closes merged
    rw [merged']
    exact each
  | error fault =>
    cases merged' : applyMerges height (singly other) reader with
    | ok states' =>
      obtain ⟨states, written, _⟩ := writes_reordered permuted.symm back merged'
      cases merged.symm.trans written
    | error fault' => trivial

theorem closesAlike_of_fits (permuted : other.Perm list) {key : String} {s : Nat}
    (fits : Decimal.Fits s ((touching key list).map MergeValue.moved)) :
    ClosesAlike reader list other key := by
  obtain ⟨scaled, room⟩ := fits
  have perm := touching_perm permuted key
  have exact {values : List MergeValue} (same : values.Perm (touching key list)) :
      Decimal.running? 0 (values.map MergeValue.units) =
        some ((touching key list).map MergeValue.units).sum := by
    have wholes : ∀ change ∈ values.map MergeValue.units,
        (Decimal.tenTo (Decimal.maxScale - s) : Int) ∣ change := by
      intro change member
      obtain ⟨value, listed, rfl⟩ := List.mem_map.mp member
      exact MergeValue.units_whole (scaled _ (List.mem_map_of_mem (same.mem_iff.mp listed)))
    have sizes : ((values.map MergeValue.units).map Int.natAbs).sum =
        (((touching key list).map MergeValue.moved).map fun a => a.units.natAbs).sum := by
      rw [MergeValue.sum_natAbs_units]
      exact ((same.map _).map _).sum_eq
    rw [Decimal.running_exact (Int.dvd_zero _) wholes (by rw [sizes]; simpa using room), Int.zero_add,
      (same.map _).sum_eq]
  intro stored _
  unfold closing?
  rw [exact (List.Perm.refl _), exact perm]

end Permuted

-- A list of values merged in two orders is written or refused alike, exactly when it is
-- refused in both, or when under every key to which only money goes the rounded sums
-- close with the same balance. They do so under all keys whose amounts fit together.
theorem merge_order_exact {list other : List (Digest × MergeValue)} (permuted : other.Perm list)
    (height : Height) (reader : Reader) :
    let merged (touches : List (Digest × MergeValue)) := applyMerges height (singly touches) reader
    (MergedAlike (merged list) (merged other) ↔
      (∀ states, merged list ≠ .ok states) ∧ (∀ states, merged other ≠ .ok states) ∨
        ∀ key, (∀ value ∈ touching key list, value.kind = .balance) →
          ClosesAlike reader list other key) ∧
    ((∀ key, ∃ s, Decimal.Fits s ((touching key list).map MergeValue.moved)) →
      MergedAlike (merged list) (merged other)) := by
  intro merged
  refine ⟨⟨fun alike => ?_, ?_⟩, fun fits => ?_⟩
  · cases written : merged list with
    | ok states =>
      cases written' : merged other with
      | ok states' =>
        rw [written, written'] at alike
        exact .inr fun key kinds => closes_of_alike permuted written written' alike kinds
      | error fault' =>
        rw [written, written'] at alike
        exact alike.elim
    | error fault =>
      cases written' : merged other with
      | ok states' =>
        rw [written, written'] at alike
        exact alike.elim
      | error fault' => exact .inl ⟨nofun, nofun⟩
  · rintro (⟨refused, refused'⟩ | closes)
    · cases written : merged list with
      | ok states => exact absurd written (refused states)
      | error fault =>
        cases written' : merged other with
        | ok states' => exact absurd written' (refused' states')
        | error fault' => trivial
    · exact merged_alike permuted closes
  · refine merged_alike permuted fun key _ => ?_
    obtain ⟨s, fits⟩ := fits key
    exact closesAlike_of_fits permuted fits

-- A large credit, a small one and a debit of the large amount. The small amount is lost
-- when it is put to the large one, and kept when it comes last.
namespace Sample

def mark (n : UInt8) : Digest := ⟨List.replicate 32 n, by simp⟩

def large : Amount := amount 79228162514264337593543950335 1

def smallBetween : List (Digest × MergeValue) :=
  [(mark 1, .credit bob large), (mark 2, .credit bob (amount 4 2)), (mark 3, .debit bob large)]

def smallLast : List (Digest × MergeValue) :=
  [(mark 1, .credit bob large), (mark 3, .debit bob large), (mark 2, .credit bob (amount 4 2))]

def moves : List (Digest × MergeValue) :=
  [(mark 1, .debit alice (amount 105 1)), (mark 1, .credit bob (amount 105 1)),
    (mark 2, .credit alice (amount 7 2)), (mark 2, .debit bob (amount 7 2)),
    (mark 3, .set (StateKey.account carol) (.account (Account.keyless carol)))]

end Sample

theorem merge_order_shows : Sample.smallLast.Perm Sample.smallBetween ∧
    ¬ MergedAlike (applyMerges ⟨2⟩ (singly Sample.smallBetween) Store.empty.reader)
      (applyMerges ⟨2⟩ (singly Sample.smallLast) Store.empty.reader) := by
  refine ⟨(List.Perm.swap _ _ []).cons _, ?_⟩
  decide +kernel

theorem moves_reversed_alike :
    MergedAlike (applyMerges ⟨2⟩ (singly Sample.moves) Sample.plainLedger.reader)
      (applyMerges ⟨2⟩ (singly Sample.moves.reverse) Sample.plainLedger.reader) := by
  have fits : Decimal.Fits 2 ((Sample.moves.map Prod.snd).map MergeValue.moved) := by
    decide +kernel
  refine (merge_order_exact (List.reverse_perm Sample.moves) ⟨2⟩ Sample.plainLedger.reader).2 ?_
  exact fun key => ⟨2, fits.sublist ((List.filter_sublist.map _).map _)⟩

end SignedLedger

import SignedLedger.Proofs.Decimal.Fold

-- What a sum comes to follows from the exact sum of the units alone: whether there is
-- room for it, and what it is rounded to. So spellings and signs make no difference,
-- and a run of sums can be followed in whole numbers.
namespace SignedLedger.Decimal

-- There is room for a number of units when its whole part, rounded, stays below the bound.
def Roomy (x : Int) : Prop := roundHalfEven x.natAbs (tenTo maxScale) < coeffBound

theorem roundHalfEven_room {n j k : Nat} (room : n < coeffBound * tenTo j) (more : j < k) :
    roundHalfEven n (tenTo k) < coeffBound := by
  obtain ⟨i, rfl⟩ := Nat.exists_eq_add_of_lt more
  have places : tenTo (j + i + 1) = tenTo j * (10 * tenTo i) := by
    rw [tenTo_succ, tenTo_add]
    ring
  have digits : n / tenTo j < coeffBound := (Nat.div_lt_iff_lt_mul (tenTo_pos j)).mpr room
  have fewer : n / tenTo j / (10 * tenTo i) ≤ n / tenTo j / 10 :=
    Nat.div_le_div_left (Nat.le_mul_of_pos_right 10 (tenTo_pos i)) (by decide)
  have rounded := roundHalfEven_le n (tenTo (j + i + 1))
  rw [places, ← Nat.div_div_eq_div_mul] at rounded
  rw [places]
  unfold coeffBound at *
  omega

theorem dropCount_none {coeff : Int} {scale : Nat} (missing : dropCount? coeff scale = none)
    (scaled : scale ≤ maxScale) : coeffBound ≤ coeff.natAbs / tenTo scale := by
  unfold dropCount? at missing
  have full := List.find?_eq_none.mp missing scale (List.mem_range.mpr (Nat.lt_succ_self scale))
  have within : scale - scale ≤ maxScale := by omega
  simp only [roomAfter, within, decide_true, Bool.and_true, decide_eq_true_eq] at full
  exact Nat.le_of_not_lt full

theorem ofParts_some {coeff : Int} {scale : Nat} (scaled : scale ≤ maxScale) :
    (∃ a, ofParts? coeff scale = some a) ↔ coeff.natAbs < coeffBound := by
  cases made : ofParts? coeff scale with
  | some a => simpa using (ofParts_parts made).2.2
  | none => simpa using ofParts_none scaled made

theorem fit_some {coeff : Int} {scale : Nat} (scaled : scale ≤ maxScale) :
    (∃ a, fit? coeff scale = some a) ↔ roundHalfEven coeff.natAbs (tenTo scale) < coeffBound := by
  unfold fit?
  cases found : dropCount? coeff scale with
  | none =>
    have large := dropCount_none found scaled
    have := roundHalfEven_ge coeff.natAbs (tenTo scale)
    simp only [reduceCtorEq, exists_false, false_iff]
    omega
  | some k =>
    obtain ⟨within, level⟩ := dropCount_parts scaled found
    have size := natAbs_shrink coeff k
    have first : (∃ a, ofParts? (shrink coeff k) (scale - k) = some a) ↔ _ :=
      ofParts_some (by omega)
    rw [size] at first
    dsimp only
    rcases Nat.lt_or_eq_of_le within with spare | rfl
    · -- A digit that is left makes room for the carry of the last rounding.
      refine iff_of_true ?_ (roundHalfEven_room level.room spare)
      cases made : ofParts? (shrink coeff k) (scale - k) with
      | some a => exact ⟨a, rfl⟩
      | none =>
        dsimp only
        rw [if_pos spare, ofParts_some (by omega), natAbs_shrink, size]
        have digits := (Nat.div_lt_iff_lt_mul (tenTo_pos k)).mpr level.room
        have carried := roundHalfEven_le coeff.natAbs (tenTo k)
        have again := roundHalfEven_le (roundHalfEven coeff.natAbs (tenTo k)) (tenTo 1)
        rw [tenTo_succ, tenTo_zero] at again ⊢
        unfold coeffBound at *
        omega
    · rw [← first]
      cases made : ofParts? (shrink coeff k) (k - k) with
      | some a => exact iff_of_true ⟨a, rfl⟩ ⟨a, rfl⟩
      | none => simp

theorem units_roomy (a : Decimal) : Roomy a.units := by
  have whole : tenTo maxScale = tenTo a.scale * tenTo (maxScale - a.scale) := by
    rw [← tenTo_add, Nat.add_sub_cancel' a.scale_le]
  unfold Roomy
  rw [units, Int.natAbs_mul, Int.natAbs_natCast, whole, roundHalfEven_scale _ _ (tenTo_pos _)]
  rcases Nat.eq_zero_or_pos a.scale with none | some
  · have exact := roundHalfEven_exact a.coeff.natAbs (tenTo_pos 0)
    rw [tenTo_zero, Nat.mul_one] at exact
    rw [none, tenTo_zero, exact]
    exact a.coeff_lt
  · have small : a.coeff.natAbs < coeffBound * tenTo 0 := by
      rw [tenTo_zero, Nat.mul_one]
      exact a.coeff_lt
    exact roundHalfEven_room small some

theorem fit_roomy {coeff : Int} {scale : Nat} (scaled : scale ≤ maxScale) :
    (∃ a, fit? coeff scale = some a) ↔ Roomy (coeff * tenTo (maxScale - scale)) := by
  have whole : tenTo maxScale = tenTo scale * tenTo (maxScale - scale) := by
    rw [← tenTo_add, Nat.add_sub_cancel' scaled]
  unfold Roomy
  rw [fit_some scaled, Int.natAbs_mul, Int.natAbs_natCast, whole,
    roundHalfEven_scale _ _ (tenTo_pos _)]

def total? (x : Int) : Option Int := (fit? x maxScale).map units

theorem Rounds.unique {x y y' : Int} (rounded : Rounds x y) (rounded' : Rounds x y') : y = y' :=
  Int.le_antisymm (rounded.mono rounded' (Int.le_refl x)) (rounded'.mono rounded (Int.le_refl x))

theorem total_rounds {x y : Int} (total : total? x = some y) : Rounds x y := by
  obtain ⟨a, fitted, rfl⟩ := Option.map_eq_some_iff.mp total
  have rounded := fit_rounds (Nat.le_refl maxScale) fitted
  rwa [Nat.sub_self, tenTo_zero, Nat.cast_one, Int.mul_one] at rounded

theorem total_roomy {x : Int} : (∃ y, total? x = some y) ↔ Roomy x := by
  have room : (∃ a, fit? x maxScale = some a) ↔ _ := fit_roomy (Nat.le_refl maxScale)
  rw [Nat.sub_self, tenTo_zero, Nat.cast_one, Int.mul_one] at room
  rw [← room]
  simp [total?]

theorem total_of_rounds {x : Int} {found : Option Decimal} (room : (∃ a, found = some a) ↔ Roomy x)
    (rounds : ∀ a, found = some a → Rounds x a.units) : found.map units = total? x := by
  rw [← total_roomy] at room
  cases same : found with
  | none =>
    rw [same] at room
    cases total : total? x with
    | none => rfl
    | some y => simp [total] at room
  | some a =>
    obtain ⟨y, total⟩ := room.mp ⟨a, same⟩
    rw [total, Option.map_some, (rounds a same).unique (total_rounds total)]

theorem add_roomy (a b : Decimal) : (∃ sum, a.add? b = some sum) ↔ Roomy (a.units + b.units) := by
  unfold add?
  split
  · rename_i zero
    rw [coeff_eq_zero_iff.mp zero, Int.zero_add]
    exact iff_of_true ⟨b, rfl⟩ b.units_roomy
  · split
    · rename_i zero
      rw [coeff_eq_zero_iff.mp zero, Int.add_zero]
      exact iff_of_true ⟨a, rfl⟩ a.units_roomy
    · rw [fit_roomy (Nat.max_le.mpr ⟨a.scale_le, b.scale_le⟩), common_units]

theorem add_total (a b : Decimal) : (a.add? b).map units = total? (a.units + b.units) :=
  total_of_rounds (add_roomy a b) fun _ => add_rounds

theorem sub_total (a b : Decimal) : (a.sub? b).map units = total? (a.units - b.units) := by
  have negated := add_total a b.neg
  rw [units_neg, ← Int.sub_eq_add_neg] at negated
  unfold sub?
  split
  · rename_i zeros
    rw [← negated, add?, if_pos zeros.1, Option.map_some, Option.map_some, units_neg,
      coeff_eq_zero_iff.mp zeros.2]
    rfl
  · exact negated

theorem total_exact {x : Int} {j : Nat} (scaled : j ≤ maxScale) (whole : (tenTo j : Int) ∣ x)
    (room : x.natAbs < coeffBound * tenTo j) : total? x = some x := by
  have roomy : Roomy x := by
    rcases Nat.lt_or_eq_of_le scaled with spare | rfl
    · exact roundHalfEven_room room spare
    · obtain ⟨q, split⟩ := Int.natCast_dvd.mp whole
      unfold Roomy
      rw [split, Nat.mul_comm, roundHalfEven_exact q (tenTo_pos _)]
      rw [split, Nat.mul_comm] at room
      exact Nat.lt_of_mul_lt_mul_right room
  obtain ⟨y, total⟩ := total_roomy.mpr roomy
  rw [total, (total_rounds total).exact whole room]

def running? (start : Int) (changes : List Int) : Option Int :=
  changes.foldlM (fun x change => total? (x + change)) start

theorem foldlM_running {α : Type} {step : Decimal → α → Option Decimal} {size : α → Int}
    {items : List α}
    (total : ∀ item ∈ items, ∀ a, (step a item).map units = total? (a.units + size item))
    (a : Decimal) : (items.foldlM step a).map units = running? a.units (items.map size) := by
  unfold running?
  induction items generalizing a with
  | nil => rfl
  | cons item rest ih =>
    rw [List.foldlM_cons, List.map_cons, List.foldlM_cons, ← total item List.mem_cons_self]
    cases step a item with
    | none => rfl
    | some next => exact ih (fun other member => total other (List.mem_cons_of_mem _ member)) next

-- Where nothing needs to be rounded, the sum is the exact one, in any order.
theorem running_exact {s : Nat} {start : Int} {changes : List Int}
    (whole : (tenTo (maxScale - s) : Int) ∣ start)
    (wholes : ∀ change ∈ changes, (tenTo (maxScale - s) : Int) ∣ change)
    (room : start.natAbs + (changes.map Int.natAbs).sum < coeffBound * tenTo (maxScale - s)) :
    running? start changes = some (start + changes.sum) := by
  induction changes generalizing start with
  | nil => simp [running?]
  | cons change rest ih =>
    rw [List.map_cons, List.sum_cons] at room
    have smaller := Int.natAbs_add_le start change
    have divides := Int.dvd_add whole (wholes change List.mem_cons_self)
    have next := total_exact (Nat.sub_le _ _) divides (by omega)
    have later := ih divides (fun other member => wholes other (List.mem_cons_of_mem _ member))
      (by omega)
    rw [running?, List.foldlM_cons, next, List.sum_cons, ← Int.add_assoc]
    exact later

end SignedLedger.Decimal

import SignedLedger.Proofs.Decimal.Rounding

namespace SignedLedger.Decimal

def Rounds (x y : Int) : Prop := ∃ m, Settles x.natAbs m ∧ y = x.sign * m

theorem Rounds.mono {x x' y y' : Int} (rounded : Rounds x y) (rounded' : Rounds x' y')
    (le : x ≤ x') : y ≤ y' := by
  obtain ⟨m, kept, rfl⟩ := rounded
  obtain ⟨m', kept', rfl⟩ := rounded'
  rcases lt_trichotomy x 0 with negative | rfl | positive
  · rcases lt_trichotomy x' 0 with negative' | rfl | positive'
    · have := kept'.mono kept (by omega)
      rw [Int.sign_eq_neg_one_of_neg negative, Int.sign_eq_neg_one_of_neg negative']
      omega
    · rw [Int.sign_eq_neg_one_of_neg negative, Int.sign_zero]
      omega
    · rw [Int.sign_eq_neg_one_of_neg negative, Int.sign_eq_one_of_pos positive']
      omega
  · rcases Int.lt_or_eq_of_le le with positive' | rfl
    · rw [Int.sign_zero, Int.sign_eq_one_of_pos positive']
      omega
    · simp
  · have positive' := Int.lt_of_lt_of_le positive le
    have := kept.mono kept' (by omega)
    rw [Int.sign_eq_one_of_pos positive, Int.sign_eq_one_of_pos positive']
    omega

theorem Rounds.exact {x y : Int} {j : Nat} (rounded : Rounds x y) (whole : (tenTo j : Int) ∣ x)
    (room : x.natAbs < coeffBound * tenTo j) : y = x := by
  obtain ⟨m, kept, rfl⟩ := rounded
  rw [kept.exact (Int.natCast_dvd.mp whole) room]
  exact Int.sign_mul_natAbs x

theorem units_dvd (a : Decimal) : (tenTo (maxScale - a.scale) : Int) ∣ a.units :=
  ⟨a.coeff, Int.mul_comm _ _⟩

theorem units_room (a : Decimal) : a.units.natAbs < coeffBound * tenTo (maxScale - a.scale) := by
  rw [units, Int.natAbs_mul, Int.natAbs_natCast]
  exact Nat.mul_lt_mul_of_pos_right a.coeff_lt (tenTo_pos _)

theorem rounds_self (a : Decimal) : Rounds a.units a.units :=
  ⟨a.units.natAbs, settles_self (Int.natCast_dvd.mp a.units_dvd) a.units_room,
    (Int.sign_mul_natAbs _).symm⟩

theorem ofParts_parts {coeff : Int} {scale : Nat} {a : Decimal}
    (made : ofParts? coeff scale = some a) :
    a.coeff = coeff ∧ a.scale = scale ∧ coeff.natAbs < coeffBound := by
  unfold ofParts? at made
  split at made
  · rename_i fits
    cases made
    exact ⟨rfl, rfl, fits.1⟩
  · cases made

theorem ofParts_none {coeff : Int} {scale : Nat} (scaled : scale ≤ maxScale)
    (missing : ofParts? coeff scale = none) : coeffBound ≤ coeff.natAbs := by
  unfold ofParts? at missing
  split at missing
  · cases missing
  · rename_i large
    exact Nat.le_of_not_lt fun small => large ⟨small, scaled⟩

theorem shrink_eq (coeff : Int) (k : Nat) :
    shrink coeff k = coeff.sign * roundHalfEven coeff.natAbs (tenTo k) := by
  unfold shrink
  dsimp only
  rcases lt_trichotomy coeff 0 with negative | rfl | positive
  · rw [if_pos negative, Int.sign_eq_neg_one_of_neg negative, Int.neg_one_mul]
  · have none : roundHalfEven 0 (tenTo k) = 0 := by
      have exact := roundHalfEven_exact 0 (tenTo_pos k)
      rwa [Nat.zero_mul] at exact
    rw [if_neg (Int.lt_irrefl 0), Int.natAbs_zero, none]
    rfl
  · rw [if_neg (Int.not_lt.mpr positive.le), Int.sign_eq_one_of_pos positive, Int.one_mul]

theorem dropCount_parts {coeff : Int} {scale k : Nat} (scaled : scale ≤ maxScale)
    (found : dropCount? coeff scale = some k) : k ≤ scale ∧ Level coeff.natAbs k := by
  unfold dropCount? at found
  obtain ⟨room, member, first⟩ := List.find?_range_eq_some.mp found
  have within (j : Nat) : scale - j ≤ maxScale := by omega
  have fits (j : Nat) : roomAfter coeff scale j = true ↔ coeff.natAbs < coeffBound * tenTo j := by
    simp only [roomAfter, within, decide_true, Bool.and_true, decide_eq_true_eq,
      Nat.div_lt_iff_lt_mul (tenTo_pos j)]
  refine ⟨Nat.lt_succ_iff.mp (List.mem_range.mp member), (fits k).mp room, fun j before => ?_⟩
  have full := first j before
  rw [Bool.not_eq_true', ← Bool.not_eq_true, fits] at full
  exact Nat.le_of_not_lt full

theorem Level.shift {n k : Nat} (level : Level n (k + 1)) (j : Nat) :
    Level (n * tenTo j) (k + 1 + j) := by
  refine ⟨?_, fun i before => ?_⟩
  · rw [tenTo_add, ← Nat.mul_assoc]
    exact Nat.mul_lt_mul_of_pos_right level.room (tenTo_pos j)
  · calc coeffBound * tenTo i ≤ coeffBound * tenTo (k + j) :=
          Nat.mul_le_mul_left _ (tenTo_mono (by omega))
      _ = coeffBound * tenTo k * tenTo j := by rw [tenTo_add, Nat.mul_assoc]
      _ ≤ n * tenTo j := Nat.mul_le_mul_right _ (level.first k (Nat.lt_succ_self k))

theorem sign_mul_tenTo (x : Int) (j : Nat) : (x * tenTo j).sign = x.sign := by
  rw [Int.sign_mul, Int.sign_natCast_of_ne_zero (tenTo_pos j).ne', Int.mul_one]

theorem shrink_zero (coeff : Int) : shrink coeff 0 = coeff := by
  have exact := roundHalfEven_exact coeff.natAbs (tenTo_pos 0)
  rw [tenTo_zero, Nat.mul_one] at exact
  rw [shrink_eq, tenTo_zero, exact, Int.sign_mul_natAbs]

theorem natAbs_shrink (coeff : Int) (k : Nat) :
    (shrink coeff k).natAbs = roundHalfEven coeff.natAbs (tenTo k) := by
  rw [shrink_eq, Int.natAbs_mul, Int.natAbs_natCast]
  rcases eq_or_ne coeff 0 with rfl | nonzero
  · have none := roundHalfEven_exact 0 (tenTo_pos k)
    rw [Nat.zero_mul] at none
    rw [Int.natAbs_zero, none, Nat.mul_zero]
  · rw [Int.natAbs_sign_of_ne_zero nonzero, Nat.one_mul]

-- Digits that reach the bound are the bound itself and give up one more.
theorem shrink_top {coeff : Int} {k : Nat} (level : Level coeff.natAbs (k + 1))
    (large : coeffBound ≤ (shrink coeff (k + 1)).natAbs) :
    shrink (shrink coeff (k + 1)) 1 = coeff.sign * shortBound := by
  have size := natAbs_shrink coeff (k + 1)
  have top : roundHalfEven coeff.natAbs (tenTo (k + 1)) = coeffBound := by
    have quotient := (Nat.div_lt_iff_lt_mul (tenTo_pos (k + 1))).mpr level.room
    have := roundHalfEven_le coeff.natAbs (tenTo (k + 1))
    omega
  rw [shrink_eq (shrink coeff (k + 1)), size, top, shrink_eq, top, Int.sign_mul,
    Int.sign_sign, Int.sign_natCast_of_ne_zero (by decide), Int.mul_one]
  rfl

theorem settles_dropped {coeff : Int} {k : Nat} (level : Level coeff.natAbs (k + 1)) (j : Nat) :
    Settles (coeff * tenTo j).natAbs
      (settle (roundHalfEven coeff.natAbs (tenTo (k + 1))) (k + 1 + j)) := by
  have digits : roundHalfEven (coeff.natAbs * tenTo j) (tenTo (k + 1 + j)) =
      roundHalfEven coeff.natAbs (tenTo (k + 1)) := by
    rw [tenTo_add, roundHalfEven_scale _ _ (tenTo_pos _)]
  rw [Int.natAbs_mul, Int.natAbs_natCast, ← digits]
  exact ⟨_, level.shift j, rfl⟩

theorem fit_rounds {coeff : Int} {scale : Nat} {a : Decimal} (scaled : scale ≤ maxScale)
    (fitted : fit? coeff scale = some a) :
    Rounds (coeff * tenTo (maxScale - scale)) a.units := by
  unfold fit? at fitted
  split at fitted
  · cases fitted
  · rename_i k found
    obtain ⟨within, level⟩ := dropCount_parts scaled found
    cases k with
    | zero =>
      have small : coeff.natAbs < coeffBound := by
        have := level.room
        rwa [tenTo_zero, Nat.mul_one] at this
      rw [shrink_zero, Nat.sub_zero] at fitted
      cases made : ofParts? coeff scale with
      | none => exact absurd (ofParts_none scaled made) (Nat.not_le.mpr small)
      | some b =>
        simp only [made] at fitted
        cases fitted
        obtain ⟨same, places, _⟩ := ofParts_parts made
        rw [← same, ← places]
        exact rounds_self a
    | succ k =>
      have size := natAbs_shrink coeff (k + 1)
      refine ⟨_, settles_dropped level (maxScale - scale), ?_⟩
      rw [sign_mul_tenTo, settle]
      cases made : ofParts? (shrink coeff (k + 1)) (scale - (k + 1)) with
      | some b =>
        simp only [made] at fitted
        cases fitted
        obtain ⟨same, places, small⟩ := ofParts_parts made
        have spare : maxScale - (scale - (k + 1)) = k + 1 + (maxScale - scale) := by omega
        rw [size] at small
        rw [if_pos small, units, same, places, spare, shrink_eq]
        push_cast
        ring
      | none =>
        have large := ofParts_none (by omega) made
        -- Rounding up has reached the bound itself, and one more digit has to go.
        have short := shrink_top level large
        rw [size] at large
        simp only [made] at fitted
        split at fitted
        · obtain ⟨same, places, _⟩ := ofParts_parts fitted
          have last : maxScale - (scale - (k + 1) - 1) = k + 1 + (maxScale - scale) + 1 := by omega
          rw [if_neg (Nat.not_lt.mpr large), units, same, places, last, short]
          push_cast
          ring
        · cases fitted

theorem common_units (a b : Decimal) :
    (a.coeff * tenTo (max a.scale b.scale - a.scale) + b.coeff * tenTo (max a.scale b.scale - b.scale)) *
      tenTo (maxScale - max a.scale b.scale) = a.units + b.units := by
  have left := a.scale_le
  have right := b.scale_le
  have first : tenTo (maxScale - a.scale) =
      tenTo (max a.scale b.scale - a.scale) * tenTo (maxScale - max a.scale b.scale) := by
    rw [← tenTo_add]
    congr 1
    omega
  have second : tenTo (maxScale - b.scale) =
      tenTo (max a.scale b.scale - b.scale) * tenTo (maxScale - max a.scale b.scale) := by
    rw [← tenTo_add]
    congr 1
    omega
  rw [Int.add_mul, Int.mul_assoc, Int.mul_assoc, ← Nat.cast_mul, ← Nat.cast_mul, ← first, ← second]
  rfl

theorem add_rounds {a b sum : Decimal} (added : a.add? b = some sum) :
    Rounds (a.units + b.units) sum.units := by
  unfold add? at added
  split at added
  · rename_i zero
    cases added
    rw [coeff_eq_zero_iff.mp zero, Int.zero_add]
    exact rounds_self b
  · split at added
    · rename_i zero
      cases added
      rw [coeff_eq_zero_iff.mp zero, Int.add_zero]
      exact rounds_self a
    · rw [← common_units]
      exact fit_rounds (Nat.max_le.mpr ⟨a.scale_le, b.scale_le⟩) added

theorem exists_add_zero (a : Decimal) : ∃ sum, a.add? zero = some sum ∧ sum.units = a.units := by
  unfold add?
  split
  · rename_i none
    exact ⟨zero, rfl, by rw [units_zero, coeff_eq_zero_iff.mp none]⟩
  · exact ⟨a, if_pos rfl, rfl⟩

theorem sub_rounds {a b difference : Decimal} (taken : a.sub? b = some difference) :
    Rounds (a.units - b.units) difference.units := by
  unfold sub? at taken
  split at taken
  · rename_i zeros
    cases taken
    rw [coeff_eq_zero_iff.mp zeros.1, coeff_eq_zero_iff.mp zeros.2, Int.sub_zero]
    have exact := rounds_self b
    rwa [coeff_eq_zero_iff.mp zeros.2] at exact
  · have rounded := add_rounds taken
    rwa [units_neg, ← Int.sub_eq_add_neg] at rounded

end SignedLedger.Decimal

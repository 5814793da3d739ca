import Mathlib.Data.Int.Order.Basic
import SignedLedger.Proofs.Decimal.Units

-- What a sum is rounded to. A number of units is rounded at the first level, a
-- number of digits to drop, where it has room; a result that lands on the bound
-- itself gives up one more digit. Rounding is monotone, and numbers that fit are
-- kept.
namespace SignedLedger.Decimal

theorem roundHalfEven_ge (n d : Nat) : n / d ≤ roundHalfEven n d := by
  unfold roundHalfEven
  dsimp only
  split
  · exact Nat.le_succ _
  · exact Nat.le_refl _

theorem roundHalfEven_le (n d : Nat) : roundHalfEven n d ≤ n / d + 1 := by
  unfold roundHalfEven
  dsimp only
  split
  · exact Nat.le_refl _
  · exact Nat.le_succ _

theorem roundHalfEven_mono {n n' : Nat} (le : n ≤ n') (d : Nat) :
    roundHalfEven n d ≤ roundHalfEven n' d := by
  rcases Nat.lt_or_ge (n / d) (n' / d) with apart | close
  · calc roundHalfEven n d ≤ n / d + 1 := roundHalfEven_le n d
      _ ≤ n' / d := apart
      _ ≤ roundHalfEven n' d := roundHalfEven_ge n' d
  · have same : n / d = n' / d := Nat.le_antisymm (Nat.div_le_div_right le) close
    have rest : n % d ≤ n' % d := by
      have whole := Nat.div_add_mod n d
      have whole' := Nat.div_add_mod n' d
      rw [same] at whole
      omega
    unfold roundHalfEven
    rw [same]
    dsimp only
    split
    · rename_i up
      rw [if_pos]
      omega
    · split
      · exact Nat.le_succ _
      · exact Nat.le_refl _

theorem roundHalfEven_scale (n d : Nat) {c : Nat} (pos : 0 < c) :
    roundHalfEven (n * c) (d * c) = roundHalfEven n d := by
  unfold roundHalfEven
  rw [Nat.mul_div_mul_right n d pos, Nat.mul_mod_mul_right]
  dsimp only
  have double : 2 * (n % d * c) = 2 * (n % d) * c := by ring
  have above : d * c < 2 * (n % d * c) ↔ d < 2 * (n % d) := by
    rw [double]
    exact Nat.mul_lt_mul_right pos
  have half : d * c = 2 * (n % d * c) ↔ d = 2 * (n % d) := by
    rw [double]
    exact Nat.mul_left_inj pos.ne'
  simp only [above, half]

theorem roundHalfEven_exact (q : Nat) {d : Nat} (pos : 0 < d) : roundHalfEven (q * d) d = q := by
  unfold roundHalfEven
  rw [Nat.mul_div_cancel q pos, Nat.mul_mod_left]
  dsimp only
  rw [if_neg]
  omega

def shortBound : Nat := roundHalfEven coeffBound 10

theorem coeffBound_le_shortBound : coeffBound ≤ 10 * shortBound := by decide

-- The level of a number of units: the fewest digits to drop that make room.
structure Level (n k : Nat) : Prop where
  room : n < coeffBound * tenTo k
  first : ∀ j < k, coeffBound * tenTo j ≤ n

theorem Level.le {n n' k k' : Nat} (level : Level n k) (level' : Level n' k') (le : n ≤ n') :
    k ≤ k' := by
  by_contra above
  have := level.first k' (Nat.lt_of_not_le above)
  have := level'.room
  omega

theorem Level.le_of_room {n k j : Nat} (level : Level n k) (room : n < coeffBound * tenTo j) :
    k ≤ j := by
  by_contra above
  have := level.first j (Nat.lt_of_not_le above)
  omega

theorem exists_level {n j : Nat} (room : n < coeffBound * tenTo j) : ∃ k ≤ j, Level n k := by
  have found : ∃ k, n < coeffBound * tenTo k := ⟨j, room⟩
  refine ⟨Nat.find found, Nat.find_min' found room, Nat.find_spec found, fun i before => ?_⟩
  exact Nat.le_of_not_lt (Nat.find_min found before)

def settle (digits k : Nat) : Nat :=
  if digits < coeffBound then digits * tenTo k else shortBound * tenTo (k + 1)

theorem settle_mono {digits digits' : Nat} (le : digits ≤ digits') (k : Nat) :
    settle digits k ≤ settle digits' k := by
  unfold settle
  split
  · rename_i small
    split
    · exact Nat.mul_le_mul_right _ le
    · calc digits * tenTo k ≤ 10 * shortBound * tenTo k :=
            Nat.mul_le_mul_right _ (small.le.trans coeffBound_le_shortBound)
        _ = shortBound * tenTo (k + 1) := by rw [tenTo_succ]; ring
  · rename_i large
    rw [if_neg fun small => large (Nat.lt_of_le_of_lt le small)]

theorem settle_le (digits k : Nat) : settle digits k ≤ shortBound * tenTo (k + 1) := by
  have top : settle coeffBound k = shortBound * tenTo (k + 1) := if_neg (Nat.lt_irrefl _)
  rcases Nat.le_total digits coeffBound with small | large
  · exact top ▸ settle_mono small k
  · exact Nat.le_of_eq (if_neg (Nat.not_lt.mpr large))

theorem le_settle {digits k : Nat} (le : shortBound ≤ digits) :
    shortBound * tenTo k ≤ settle digits k := by
  have least : settle shortBound k = shortBound * tenTo k := if_pos (by decide)
  exact least ▸ settle_mono le k

def Settles (n m : Nat) : Prop := ∃ k, Level n k ∧ m = settle (roundHalfEven n (tenTo k)) k

theorem Settles.mono {n n' m m' : Nat} (kept : Settles n m) (kept' : Settles n' m')
    (le : n ≤ n') : m ≤ m' := by
  obtain ⟨k, level, rfl⟩ := kept
  obtain ⟨k', level', rfl⟩ := kept'
  rcases Nat.lt_or_eq_of_le (level.le level' le) with apart | rfl
  · -- On a higher level nothing lies below the short bound of that level.
    have digits : shortBound ≤ roundHalfEven n' (tenTo k') := by
      obtain ⟨j, rfl⟩ := Nat.exists_eq_add_of_lt (Nat.zero_lt_of_lt apart)
      rw [Nat.zero_add] at level' ⊢
      have reached := level'.first j (Nat.lt_succ_self j)
      have scaled := roundHalfEven_scale coeffBound 10 (tenTo_pos j)
      have higher := roundHalfEven_mono reached (tenTo (j + 1))
      rwa [tenTo_succ, scaled, ← tenTo_succ] at higher
    calc settle (roundHalfEven n (tenTo k)) k ≤ shortBound * tenTo (k + 1) := settle_le _ _
      _ ≤ shortBound * tenTo k' := Nat.mul_le_mul_left _ (tenTo_mono apart)
      _ ≤ settle (roundHalfEven n' (tenTo k')) k' := le_settle digits
  · exact settle_mono (roundHalfEven_mono le _) _

theorem Settles.exact {n m j : Nat} (kept : Settles n m) (whole : tenTo j ∣ n)
    (room : n < coeffBound * tenTo j) : m = n := by
  obtain ⟨k, level, rfl⟩ := kept
  obtain ⟨q, rfl⟩ := (tenTo_dvd (level.le_of_room room)).trans whole
  have fits : q < coeffBound := by
    have := level.room
    rw [Nat.mul_comm] at this
    exact Nat.lt_of_mul_lt_mul_right this
  rw [Nat.mul_comm, roundHalfEven_exact q (tenTo_pos k), settle, if_pos fits]

theorem settles_self {n j : Nat} (whole : tenTo j ∣ n) (room : n < coeffBound * tenTo j) :
    Settles n n := by
  obtain ⟨k, _, level⟩ := exists_level room
  have kept : Settles n (settle (roundHalfEven n (tenTo k)) k) := ⟨k, level, rfl⟩
  have same := kept.exact whole room
  rwa [same] at kept

end SignedLedger.Decimal

import Mathlib.Algebra.Order.Field.Rat
import Mathlib.Tactic.FieldSimp
import Mathlib.Tactic.Ring
import SignedLedger.Decimal.Arithmetic

-- Decimals as whole numbers of one unit, the last fraction digit that there is.
-- Sums and comparisons of decimals are those of their units.
namespace SignedLedger.Decimal

theorem tenTo_pos (k : Nat) : 0 < tenTo k := Nat.pow_pos (by decide)

theorem tenTo_zero : tenTo 0 = 1 := rfl

theorem tenTo_add (j k : Nat) : tenTo (j + k) = tenTo j * tenTo k := Nat.pow_add 10 j k

theorem tenTo_succ (k : Nat) : tenTo (k + 1) = 10 * tenTo k := by
  rw [Nat.add_comm, tenTo_add]
  rfl

theorem tenTo_mono {j k : Nat} (le : j ≤ k) : tenTo j ≤ tenTo k :=
  Nat.pow_le_pow_right (by decide) le

theorem tenTo_dvd {j k : Nat} (le : j ≤ k) : tenTo j ∣ tenTo k := Nat.pow_dvd_pow 10 le

def units (a : Decimal) : Int := a.coeff * tenTo (maxScale - a.scale)

def value (a : Decimal) : ℚ := a.coeff / tenTo a.scale

theorem units_scale (a : Decimal) : a.units * tenTo a.scale = a.coeff * tenTo maxScale := by
  have split : tenTo maxScale = tenTo (maxScale - a.scale) * tenTo a.scale := by
    rw [← tenTo_add, Nat.sub_add_cancel a.scale_le]
  rw [units, split, Nat.cast_mul, Int.mul_assoc]

theorem value_eq_units (a : Decimal) : a.value = a.units / tenTo maxScale := by
  have exact : (a.units : ℚ) * tenTo a.scale = a.coeff * tenTo maxScale := by
    exact_mod_cast a.units_scale
  have scale : (tenTo a.scale : ℚ) ≠ 0 := by
    exact_mod_cast (tenTo_pos _).ne'
  have whole : (tenTo maxScale : ℚ) ≠ 0 := by
    exact_mod_cast (tenTo_pos _).ne'
  rw [value, div_eq_div_iff scale whole, exact]

theorem units_zero : zero.units = 0 := by decide

theorem value_zero : zero.value = 0 := by
  rw [value_eq_units, units_zero, Int.cast_zero, zero_div]

theorem units_neg (a : Decimal) : a.neg.units = -a.units := by
  simp only [units, neg, Int.neg_mul]

theorem lt_iff_units {a b : Decimal} : a < b ↔ a.units < b.units := by
  have pos : (0 : Int) < tenTo a.scale * tenTo b.scale := by
    exact_mod_cast Nat.mul_pos (tenTo_pos _) (tenTo_pos _)
  have top : (0 : Int) < tenTo maxScale := by
    exact_mod_cast tenTo_pos _
  have left : a.units * (tenTo a.scale * tenTo b.scale) =
      a.coeff * tenTo b.scale * tenTo maxScale := by
    rw [← Int.mul_assoc, units_scale]
    ring
  have right : b.units * (tenTo a.scale * tenTo b.scale) =
      b.coeff * tenTo a.scale * tenTo maxScale := by
    rw [Int.mul_comm (tenTo a.scale : Int), ← Int.mul_assoc, units_scale]
    ring
  rw [lt_iff, ← Int.mul_lt_mul_right top, ← left, ← right, Int.mul_lt_mul_right pos]

theorem same_iff_units {a b : Decimal} : a.Same b ↔ a.units = b.units := by
  have below := lt_iff_units (a := a) (b := b)
  have above := lt_iff_units (a := b) (b := a)
  rw [lt_iff] at below above
  unfold Same
  omega

theorem isZero_iff {a : Decimal} : a.isZero = true ↔ a.units = 0 := by
  have pos : (0 : Int) < tenTo (maxScale - a.scale) := by
    exact_mod_cast tenTo_pos _
  simp only [isZero, units, decide_eq_true_eq, Int.mul_eq_zero, pos.ne', or_false]

theorem coeff_eq_zero_iff {a : Decimal} : a.coeff = 0 ↔ a.units = 0 := by
  rw [← isZero_iff, isZero, decide_eq_true_eq]

theorem isNegative_iff {a : Decimal} : a.isNegative = true ↔ a.units < 0 := by
  have pos : (0 : Int) < tenTo (maxScale - a.scale) := by
    exact_mod_cast tenTo_pos _
  simp only [isNegative, decide_eq_true_eq, units]
  constructor
  · intro negative
    exact Int.mul_neg_of_neg_of_pos negative pos
  · intro negative
    by_contra other
    have := Int.mul_nonneg (Int.not_lt.mp other) pos.le
    omega

theorem not_isNegative_iff {a : Decimal} : a.isNegative = false ↔ 0 ≤ a.units := by
  rw [← Bool.not_eq_true, isNegative_iff, Int.not_lt]

theorem zero_lt_iff {a : Decimal} : zero < a ↔ 0 < a.units := by
  rw [lt_iff_units, units_zero]

theorem units_larger {a b : Decimal} : (a.larger b).units = max a.units b.units := by
  unfold larger
  split
  · rename_i below
    rw [lt_iff_units] at below
    omega
  · rename_i other
    rw [lt_iff_units] at other
    omega

theorem units_smaller {a b : Decimal} : (a.smaller b).units = min a.units b.units := by
  unfold smaller
  split
  · rename_i below
    rw [lt_iff_units] at below
    omega
  · rename_i other
    rw [lt_iff_units] at other
    omega

theorem value_le_iff {a b : Decimal} : a.value ≤ b.value ↔ a.units ≤ b.units := by
  have pos : (0 : ℚ) < tenTo maxScale := by
    exact_mod_cast tenTo_pos _
  rw [value_eq_units, value_eq_units, div_le_div_iff_of_pos_right pos, Int.cast_le]

theorem value_eq_iff {a b : Decimal} : a.value = b.value ↔ a.units = b.units := by
  rw [le_antisymm_iff, value_le_iff, value_le_iff, Int.le_antisymm_iff]

theorem value_nonneg_iff {a : Decimal} : 0 ≤ a.value ↔ 0 ≤ a.units := by
  rw [← value_zero, value_le_iff, units_zero]

theorem value_pos_iff {a : Decimal} : 0 < a.value ↔ 0 < a.units := by
  rw [← not_le, ← value_zero, value_le_iff, units_zero, Int.not_le]

theorem value_eq_zero_iff {a : Decimal} : a.value = 0 ↔ a.isZero = true := by
  rw [isZero_iff, ← value_zero, value_eq_iff, units_zero]

end SignedLedger.Decimal

import SignedLedger.Decimal.Text
import SignedLedger.Proofs.Text.Cut

-- The text of a decimal shows all of it: the sign, also the one of a zero, every digit,
-- and by the place of the point the scale.
namespace SignedLedger.Decimal

theorem digits_digit {n : Nat} : ∀ c ∈ digits n, c.isDigit = true :=
  fun _ member => Nat.isDigit_of_mem_toDigits (by decide) (by decide) member

theorem padded_digit {scale n : Nat} : ∀ c ∈ padded scale n, c.isDigit = true := by
  intro c member
  rcases List.mem_append.mp member with zero | digit
  · obtain rfl := List.eq_of_mem_replicate zero
    decide
  · exact digits_digit c digit

theorem scale_lt_padded (scale n : Nat) : scale < (padded scale n).length := by
  rw [padded, List.length_append, List.length_replicate]
  omega

theorem ofDigitChars_padded (scale n : Nat) : Nat.ofDigitChars 10 (padded scale n) 0 = n := by
  have zeros (k : Nat) (rest : List Char) :
      Nat.ofDigitChars 10 (List.replicate k '0' ++ rest) 0 = Nat.ofDigitChars 10 rest 0 := by
    induction k with
    | zero => rfl
    | succ k ih => exact ih
  rw [padded, zeros]
  exact Nat.ofDigitChars_toDigits (by decide) (by decide)

theorem padded_inj {scale n m : Nat} (same : padded scale n = padded scale m) : n = m := by
  rw [← ofDigitChars_padded scale n, same, ofDigitChars_padded]

def pointed (scale n : Nat) : List Char :=
  let ds := padded scale n
  ds.take (ds.length - scale) ++ if scale = 0 then [] else '.' :: ds.drop (ds.length - scale)

theorem chars_eq (a : Decimal) :
    a.chars = (if a.signed then ['-'] else []) ++ pointed a.scale a.coeff.natAbs := by
  rw [chars, pointed, List.append_assoc]

theorem point_not_mem {ds : List Char} (plain : ∀ c ∈ ds, c.isDigit = true) : '.' ∉ ds :=
  fun member => absurd (plain '.' member) (by decide)

theorem pointed_inj {scale scale' n m : Nat} (same : pointed scale n = pointed scale' m) :
    scale = scale' ∧ n = m := by
  have plain {scale n k : Nat} : '.' ∉ (padded scale n).take k :=
    point_not_mem fun c member => padded_digit c (List.mem_of_mem_take member)
  have fraction (scale n : Nat) :
      ((padded scale n).drop ((padded scale n).length - scale)).length = scale := by
    have := scale_lt_padded scale n
    rw [List.length_drop]
    omega
  unfold pointed at same
  dsimp only at same
  by_cases whole : scale = 0
  · by_cases whole' : scale' = 0
    · subst whole whole'
      simp only [if_true, List.append_nil, Nat.sub_zero, List.take_length] at same
      exact ⟨rfl, padded_inj same⟩
    · rw [if_pos whole, if_neg whole', List.append_nil] at same
      exact absurd (by simp) (same ▸ plain)
  · by_cases whole' : scale' = 0
    · rw [if_neg whole, if_pos whole', List.append_nil] at same
      exact absurd (by simp) (same ▸ plain)
    · rw [if_neg whole, if_neg whole'] at same
      obtain ⟨front, back⟩ := Text.cut_unique plain plain same
      obtain rfl : scale = scale' := by
        rw [← fraction scale n, back, fraction]
      have joined := congr (congrArg HAppend.hAppend front) back
      rw [List.take_append_drop, List.take_append_drop] at joined
      exact ⟨rfl, padded_inj joined⟩

theorem signed_of_zero {a : Decimal} (zero : a.coeff = 0) : a.signed = a.minusZero := by
  simp [signed, zero]

theorem signed_of_nonzero {a : Decimal} (some : a.coeff ≠ 0) :
    a.minusZero = false ∧ a.signed = decide (a.coeff < 0) := by
  have plain : a.minusZero = false := by
    rw [← Bool.not_eq_true]
    exact fun minus => some (a.zero_of_minus minus)
  exact ⟨plain, by simp [signed, plain]⟩

theorem ext_parts {a b : Decimal} (scale : a.scale = b.scale) (signs : a.signed = b.signed)
    (magnitude : a.coeff.natAbs = b.coeff.natAbs) : a = b := by
  have both : a.coeff = b.coeff ∧ a.minusZero = b.minusZero := by
    by_cases zero : a.coeff = 0
    · have zero' : b.coeff = 0 := by omega
      rw [signed_of_zero zero, signed_of_zero zero'] at signs
      exact ⟨zero.trans zero'.symm, signs⟩
    · obtain ⟨plain, negative⟩ := signed_of_nonzero zero
      obtain ⟨plain', negative'⟩ := signed_of_nonzero (a := b) (by omega)
      rw [negative, negative', decide_eq_decide] at signs
      exact ⟨by omega, plain.trans plain'.symm⟩
  cases a
  cases b
  obtain ⟨rfl, rfl⟩ := both
  cases scale
  rfl

theorem pointed_front (scale n : Nat) : ∃ c rest, pointed scale n = c :: rest ∧ c.isDigit = true := by
  have long := scale_lt_padded scale n
  cases held : padded scale n with
  | nil => simp [held] at long
  | cons c rest =>
    have digit : c.isDigit = true := padded_digit c (held ▸ List.mem_cons_self)
    obtain ⟨k, places⟩ : ∃ k, (c :: rest).length - scale = k + 1 :=
      ⟨(c :: rest).length - scale - 1, by rw [held] at long; omega⟩
    exact ⟨c, _, by rw [pointed, held, places]; rfl, digit⟩

theorem text_injective {a b : Decimal} (same : a.text = b.text) : a = b := by
  have chars : a.chars = b.chars := String.ofList_injective same
  rw [chars_eq, chars_eq] at chars
  obtain ⟨c, rest, front, digit⟩ := pointed_front a.scale a.coeff.natAbs
  obtain ⟨c', rest', front', digit'⟩ := pointed_front b.scale b.coeff.natAbs
  -- A sign is no digit, so both have one or neither has.
  have signs : a.signed = b.signed := by
    rw [front, front'] at chars
    cases sign : a.signed with
    | false =>
      cases sign' : b.signed with
      | false => rfl
      | true =>
        simp only [sign, sign', if_true, Bool.false_eq_true, if_false] at chars
        obtain rfl : c = '-' := (List.cons.inj chars).1
        cases digit
    | true =>
      cases sign' : b.signed with
      | true => rfl
      | false =>
        simp only [sign, sign', if_true, Bool.false_eq_true, if_false] at chars
        obtain rfl : '-' = c' := (List.cons.inj chars).1
        cases digit'
  rw [signs] at chars
  obtain ⟨scale, magnitude⟩ := pointed_inj (List.append_cancel_left chars)
  exact ext_parts scale signs magnitude

theorem chars_length_le (a : Decimal) : a.chars.length ≤ 31 := by
  have digits : (digits a.coeff.natAbs).length ≤ 29 :=
    (Nat.length_toDigits_le_iff (by decide) (by decide)).mpr (Nat.lt_trans a.coeff_lt (by decide))
  have scale : a.scale ≤ 28 := a.scale_le
  have padding : (padded a.scale a.coeff.natAbs).length ≤ 29 := by
    rw [padded, List.length_append, List.length_replicate]
    omega
  have sign : (if a.signed then ['-'] else []).length ≤ 1 := by split <;> simp
  have point : (pointed a.scale a.coeff.natAbs).length ≤ 30 := by
    unfold pointed
    split
    · simp only [List.length_append, List.length_take, List.length_nil]
      omega
    · simp only [List.length_append, List.length_take, List.length_cons, List.length_drop]
      omega
  rw [chars_eq, List.length_append]
  omega

end SignedLedger.Decimal

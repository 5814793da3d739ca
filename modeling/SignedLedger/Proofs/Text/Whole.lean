import SignedLedger.Text.Whole

-- What is read as a whole number: exactly the spellings of the numbers below the bound.
namespace SignedLedger.Text
variable {bound n : Nat} {text : List Char}

structure Denotes (digits : List Char) (n : Nat) : Prop where
  filled : digits ≠ []
  plain : ∀ c ∈ digits, c.isDigit = true
  value : Nat.ofDigitChars 10 digits 0 = n

def Spells (text : List Char) (n : Nat) : Prop :=
  ∃ digits, (text = digits ∨ text = '+' :: digits) ∧ Denotes digits n

theorem le_ofDigitChars (digits : List Char) (value : Nat) :
    value ≤ Nat.ofDigitChars 10 digits value := by
  induction digits generalizing value with
  | nil => exact Nat.le_refl _
  | cons c rest ih =>
    rw [Nat.ofDigitChars_cons]
    exact Nat.le_trans (by omega) (ih _)

-- The bound is looked at after every digit, and no later digit makes a number smaller.
theorem readDigits_exact {value : Nat} (small : value < bound) :
    readDigits bound value text = .ok n ↔
      (∀ c ∈ text, c.isDigit = true) ∧ Nat.ofDigitChars 10 text value = n ∧ n < bound := by
  induction text generalizing value with
  | nil =>
    simp only [readDigits, Nat.ofDigitChars_nil, Except.ok.injEq, List.not_mem_nil, false_imp_iff,
      implies_true, true_and]
    exact ⟨fun same => ⟨same, same ▸ small⟩, fun both => both.1⟩
  | cons c rest ih =>
    rw [readDigits, List.forall_mem_cons, Nat.ofDigitChars_cons]
    by_cases digit : c.isDigit = true
    · rw [if_pos digit]
      by_cases next : 10 * value + digitValue c < bound
      · simp only [if_pos next, ih next, digit, true_and]
        rfl
      · have reached := le_ofDigitChars rest (10 * value + digitValue c)
        simp only [if_neg next, reduceCtorEq, false_iff]
        intro ⟨_, final, below⟩
        subst final
        exact next (Nat.lt_of_le_of_lt reached below)
    · simp [digit]

theorem Denotes.not_mem {digits : List Char} {c : Char} (denotes : Denotes digits n)
    (other : c.isDigit = false) : c ∉ digits := by
  intro member
  have digit := denotes.plain c member
  rw [other] at digit
  cases digit

theorem spells_signed {digits : List Char} : Spells ('+' :: digits) n ↔ Denotes digits n := by
  constructor
  · intro ⟨others, spelled, denotes⟩
    rcases spelled with rfl | same
    · exact absurd List.mem_cons_self (denotes.not_mem (by decide))
    · cases same
      exact denotes
  · exact fun denotes => ⟨digits, .inr rfl, denotes⟩

theorem spells_unsigned (unsigned : ∀ rest, text ≠ '+' :: rest) :
    Spells text n ↔ Denotes text n := by
  constructor
  · intro ⟨others, spelled, denotes⟩
    rcases spelled with rfl | rfl
    · exact denotes
    · exact absurd rfl (unsigned others)
  · exact fun denotes => ⟨text, .inl rfl, denotes⟩

theorem readDigits_denotes (room : 0 < bound) (filled : text ≠ []) :
    readDigits bound 0 text = .ok n ↔ Denotes text n ∧ n < bound := by
  rw [readDigits_exact room]
  constructor
  · exact fun ⟨plain, value, below⟩ => ⟨⟨filled, plain, value⟩, below⟩
  · exact fun ⟨⟨_, plain, value⟩, below⟩ => ⟨plain, value, below⟩

theorem not_denotes_nil : ¬ Denotes [] n := fun denotes => denotes.filled rfl

theorem readWhole_exact (room : 0 < bound) :
    readWhole bound text = .ok n ↔ Spells text n ∧ n < bound := by
  unfold readWhole
  split
  · simp [spells_unsigned, not_denotes_nil]
  · simp [spells_signed, not_denotes_nil]
  · rename_i digits more
    rw [spells_signed, readDigits_denotes room fun none => more (by rw [none])]
  · rename_i filled _ unsigned
    rw [spells_unsigned unsigned, readDigits_denotes room filled]

theorem denotes_toDigits (n : Nat) : Denotes (Nat.toDigits 10 n) n where
  filled := Nat.toDigits_ne_nil
  plain _ member := Nat.isDigit_of_mem_toDigits (by decide) (by decide) member
  value := Nat.ofDigitChars_toDigits (by decide) (by decide)

theorem spells_toDigits (n : Nat) : Spells (Nat.toDigits 10 n) n :=
  ⟨_, .inl rfl, denotes_toDigits n⟩

end SignedLedger.Text

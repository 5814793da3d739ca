namespace SignedLedger.Text

def utf8 (text : String) : List UInt8 := text.toList.flatMap String.utf8EncodeChar

theorem size_utf8Encode (chars : List Char) :
    chars.utf8Encode.size = (chars.flatMap String.utf8EncodeChar).length := by
  induction chars with
  | nil => simp [List.utf8Encode_nil]
  | cons c rest ih =>
    rw [List.utf8Encode_cons, ByteArray.size_append, List.utf8Encode_singleton, ih]
    simp [List.size_toByteArray]

theorem utf8ByteSize_eq (text : String) : text.utf8ByteSize = (utf8 text).length := by
  have encoded := size_utf8Encode text.toList
  rw [← String.toByteArray_ofList, String.ofList_toList] at encoded
  simpa [utf8] using encoded

theorem utf8Size_of_alphanum {c : Char} (plain : c.isAlphanum = true) : c.utf8Size = 1 := by
  have small : c.val ≤ 127 := by
    have parts : ((c.isUpper || c.isLower) || c.isDigit) = true := plain
    have upTo (low high : UInt32) (small : high ≤ 127)
        (inside : (decide (c.val ≥ low) && decide (c.val ≤ high)) = true) : c.val ≤ 127 :=
      UInt32.le_trans (of_decide_eq_true (Bool.and_eq_true_iff.mp inside).2) small
    rcases Bool.or_eq_true_iff.mp parts with letter | digit
    · rcases Bool.or_eq_true_iff.mp letter with upper | lower
      · exact UInt32.le_trans (of_decide_eq_true upper).2 (by decide)
      · exact upTo 97 122 (by decide) lower
    · exact upTo 48 57 (by decide) digit
  exact Char.utf8Size_eq_one_iff.mpr small

theorem utf8ByteSize_of_alphanum (chars : List Char) (plain : ∀ c ∈ chars, c.isAlphanum = true) :
    (String.ofList chars).utf8ByteSize = chars.length := by
  rw [utf8ByteSize_eq, utf8, String.toList_ofList]
  induction chars with
  | nil => rfl
  | cons c rest ih =>
    have first := utf8Size_of_alphanum (plain c (by simp))
    simp [ih (fun x member => plain x (List.mem_cons_of_mem _ member)), first]
    omega

end SignedLedger.Text

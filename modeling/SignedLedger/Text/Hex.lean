namespace SignedLedger.Text

def hexDigit (n : Nat) : Char := if n < 10 then Char.ofNat (48 + n) else Char.ofNat (87 + n)

def hexChars : List UInt8 → List Char
  | [] => []
  | b :: rest => hexDigit (b.toNat / 16) :: hexDigit (b.toNat % 16) :: hexChars rest

def hex (bytes : List UInt8) : String := String.ofList (hexChars bytes)

def hexValue? (c : Char) : Option Nat :=
  if c.isDigit then some (c.toNat - 48)
  else if 'a' ≤ c ∧ c ≤ 'f' then some (c.toNat - 87)
  else if 'A' ≤ c ∧ c ≤ 'F' then some (c.toNat - 55)
  else none

def unhex? : List Char → Option (List UInt8)
  | [] => some []
  | high :: low :: rest => do
    let h ← hexValue? high
    let l ← hexValue? low
    let bytes ← unhex? rest
    return UInt8.ofNat (16 * h + l) :: bytes
  | [_] => none

theorem hexChars_length (bytes : List UInt8) : (hexChars bytes).length = 2 * bytes.length := by
  induction bytes with
  | nil => rfl
  | cons b rest ih => simp [hexChars, ih]; omega

theorem hexDigit_alphanum : ∀ n : Fin 16, (hexDigit n).isAlphanum = true := by decide

theorem hexChars_alphanum (bytes : List UInt8) : ∀ c ∈ hexChars bytes, c.isAlphanum = true := by
  induction bytes with
  | nil => simp [hexChars]
  | cons b rest ih =>
    have high : b.toNat / 16 < 16 := by have := b.toNat_lt; omega
    have low : b.toNat % 16 < 16 := Nat.mod_lt _ (by decide)
    intro c member
    simp only [hexChars, List.mem_cons] at member
    rcases member with rfl | rfl | old
    · exact hexDigit_alphanum ⟨_, high⟩
    · exact hexDigit_alphanum ⟨_, low⟩
    · exact ih c old

end SignedLedger.Text

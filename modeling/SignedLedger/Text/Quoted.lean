import SignedLedger.Text.Invisible

-- Quoted text, as error messages show what was given to them: a reader can tell
-- every character from its neighbours, also one that prints as nothing.
namespace SignedLedger.Text

def hexNumber (n : Nat) : String := String.ofList (Nat.toDigits 16 n)

def codePoint (c : Char) : String := "\\u\x7b" ++ hexNumber c.toNat ++ "\x7d"

def quotedChar (c : Char) : String :=
  if c = '\x00' then "\\0"
  else if c = '\t' then "\\t"
  else if c = '\r' then "\\r"
  else if c = '\n' then "\\n"
  else if c = '"' then "\\\""
  else if c = '\\' then "\\\\"
  else if c.toNat < 0x20 ∨ c.toNat = 0x7f ∨ isInvisible c then codePoint c
  else c.toString

def quoted (text : String) : String :=
  "\"" ++ String.join (text.toList.map quotedChar) ++ "\""

end SignedLedger.Text

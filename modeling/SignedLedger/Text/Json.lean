namespace SignedLedger

inductive Json where
  | null
  | bool (b : Bool)
  | number (n : Nat)
  | text (s : String)
  | list (items : List Json)
  | object (fields : List (String × Json))

namespace Json

def hexDigits4 (n : Nat) : String :=
  let ds := Nat.toDigits 16 n
  String.ofList (List.replicate (4 - ds.length) '0' ++ ds)

def escaped (c : Char) : String :=
  if c = '"' then "\\\""
  else if c = '\\' then "\\\\"
  else if c = '\x08' then "\\b"
  else if c = '\t' then "\\t"
  else if c = '\n' then "\\n"
  else if c = '\x0c' then "\\f"
  else if c = '\r' then "\\r"
  else if c.toNat < 0x20 then "\\u" ++ hexDigits4 c.toNat
  else c.toString

def literal (s : String) : String := "\"" ++ String.join (s.toList.map escaped) ++ "\""

mutual

def compact : Json → String
  | .null => "null"
  | .bool b => if b then "true" else "false"
  | .number n => toString n
  | .text s => literal s
  | .list items => "[" ++ String.intercalate "," (compactItems items) ++ "]"
  | .object fields => "\x7b" ++ String.intercalate "," (compactFields fields) ++ "\x7d"

def compactItems : List Json → List String
  | [] => []
  | item :: rest => compact item :: compactItems rest

def compactFields : List (String × Json) → List String
  | [] => []
  | (name, value) :: rest => (literal name ++ ":" ++ compact value) :: compactFields rest

end

def indent (depth : Nat) : String := String.ofList (List.replicate (2 * depth) ' ')

def block (depth : Nat) (openMark closeMark : String) (lines : List String) : String :=
  if lines.isEmpty then openMark ++ closeMark
  else
    let inner := lines.map fun line => "\n" ++ indent (depth + 1) ++ line
    openMark ++ String.intercalate "," inner ++ "\n" ++ indent depth ++ closeMark

mutual

def prettyAt (depth : Nat) : Json → String
  | .null => "null"
  | .bool b => if b then "true" else "false"
  | .number n => toString n
  | .text s => literal s
  | .list items => block depth "[" "]" (prettyItems (depth + 1) items)
  | .object fields => block depth "\x7b" "\x7d" (prettyFields (depth + 1) fields)

def prettyItems (depth : Nat) : List Json → List String
  | [] => []
  | item :: rest => prettyAt depth item :: prettyItems depth rest

def prettyFields (depth : Nat) : List (String × Json) → List String
  | [] => []
  | (name, value) :: rest => (literal name ++ ": " ++ prettyAt depth value) :: prettyFields depth rest

end

def pretty (json : Json) : String := prettyAt 0 json

end Json
end SignedLedger

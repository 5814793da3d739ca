import SignedLedger.Text.Cut
import SignedLedger.Text.Hex

-- TOML documents. Reading gives a tree of tables or nothing; why a text is no
-- document is not told.
namespace SignedLedger

inductive Toml where
  | text (s : String)
  | integer (n : Int)
  | float
  | bool (b : Bool)
  | dateTime
  | list (items : List Toml)
  | table (fields : List (String × Toml))

namespace Toml

abbrev Read (α : Type) := Option (α × List Char)

def isBlank (c : Char) : Bool := c = ' ' || c = '\t'

def skipBlanks (cs : List Char) : List Char := cs.dropWhile isBlank

def newline? : List Char → Option (List Char)
  | '\n' :: rest => some rest
  | '\r' :: '\n' :: rest => some rest
  | _ => none

def isPlain (c : Char) : Bool := c = '\t' || (0x20 ≤ c.toNat && c.toNat ≠ 0x7f)

def skipComment : List Char → List Char
  | '#' :: rest => rest.dropWhile isPlain
  | cs => cs

def endOfLine? (cs : List Char) : Option (List Char) :=
  match skipComment (skipBlanks cs) with
  | [] => some []
  | rest => newline? rest

def skipGaps : Nat → List Char → List Char
  | 0, cs => cs
  | fuel + 1, cs =>
    match skipComment (skipBlanks cs) with
    | [] => []
    | rest =>
      match newline? rest with
      | some next => skipGaps fuel next
      | none => rest

def readHex (value : Nat) : Nat → List Char → Read Nat
  | 0, cs => some (value, cs)
  | _ + 1, [] => none
  | count + 1, c :: rest =>
    match Text.hexValue? c with
    | some digit => readHex (16 * value + digit) count rest
    | none => none

def scalarValue? (n : Nat) : Option Char :=
  if n < 0xD800 ∨ (0xDFFF < n ∧ n < 0x110000) then some (Char.ofNat n) else none

def readCodePoint (count : Nat) (cs : List Char) : Read Char :=
  match readHex 0 count cs with
  | none => none
  | some (n, rest) => (scalarValue? n).map fun c => (c, rest)

def readEscape : List Char → Read Char
  | 'b' :: rest => some ('\x08', rest)
  | 't' :: rest => some ('\t', rest)
  | 'n' :: rest => some ('\n', rest)
  | 'f' :: rest => some ('\x0c', rest)
  | 'r' :: rest => some ('\r', rest)
  | '"' :: rest => some ('"', rest)
  | '\\' :: rest => some ('\\', rest)
  | 'u' :: rest => readCodePoint 4 rest
  | 'U' :: rest => readCodePoint 8 rest
  | _ => none

def readBasic : Nat → List Char → Read (List Char)
  | 0, _ => none
  | _ + 1, '"' :: rest => some ([], rest)
  | fuel + 1, '\\' :: rest =>
    match readEscape rest with
    | none => none
    | some (c, after) => (readBasic fuel after).map fun (s, last) => (c :: s, last)
  | fuel + 1, c :: rest =>
    if isPlain c then (readBasic fuel rest).map fun (s, last) => (c :: s, last) else none
  | _ + 1, [] => none

def readLiteral : List Char → Read (List Char)
  | [] => none
  | '\'' :: rest => some ([], rest)
  | c :: rest => if isPlain c then (readLiteral rest).map fun (s, last) => (c :: s, last) else none

def closing? (quote : Char) (cs : List Char) : Read (List Char) :=
  let quotes := (cs.takeWhile fun c => c = quote).length
  if quotes < 3 then none
  else if quotes ≤ 5 then some (List.replicate (quotes - 3) quote, cs.drop quotes)
  else some ([quote, quote], cs.drop 5)

def skipFolded : Nat → List Char → List Char
  | 0, cs => cs
  | fuel + 1, cs =>
    let rest := skipBlanks cs
    match newline? rest with
    | some next => skipFolded fuel next
    | none => rest

def readLongBasic : Nat → List Char → Read (List Char)
  | 0, _ => none
  | fuel + 1, cs =>
    match closing? '"' cs with
    | some done => some done
    | none =>
      match cs with
      | '\\' :: rest =>
        match newline? (skipBlanks rest) with
        | some next => readLongBasic fuel (skipFolded fuel next)
        | none =>
          match readEscape rest with
          | none => none
          | some (c, after) => (readLongBasic fuel after).map fun (s, last) => (c :: s, last)
      | _ =>
        match newline? cs with
        | some next => (readLongBasic fuel next).map fun (s, last) => ('\n' :: s, last)
        | none =>
          match cs with
          | [] => none
          | c :: rest =>
            if isPlain c then (readLongBasic fuel rest).map fun (s, last) => (c :: s, last)
            else none

def readLongLiteral : Nat → List Char → Read (List Char)
  | 0, _ => none
  | fuel + 1, cs =>
    match closing? '\'' cs with
    | some done => some done
    | none =>
      match newline? cs with
      | some next => (readLongLiteral fuel next).map fun (s, last) => ('\n' :: s, last)
      | none =>
        match cs with
        | [] => none
        | c :: rest =>
          if isPlain c then (readLongLiteral fuel rest).map fun (s, last) => (c :: s, last)
          else none

def afterOpening (cs : List Char) : List Char := (newline? cs).getD cs

def readString : List Char → Read (List Char)
  | '"' :: '"' :: '"' :: rest => readLongBasic (rest.length + 1) (afterOpening rest)
  | '"' :: rest => readBasic (rest.length + 1) rest
  | '\'' :: '\'' :: '\'' :: rest => readLongLiteral (rest.length + 1) (afterOpening rest)
  | '\'' :: rest => readLiteral rest
  | _ => none

def isBare (c : Char) : Bool := c.isAlphanum || c = '_' || c = '-'

def readKeyPart (cs : List Char) : Read String :=
  match cs with
  | '"' :: rest => (readBasic (rest.length + 1) rest).map fun (s, last) => (String.ofList s, last)
  | '\'' :: rest => (readLiteral rest).map fun (s, last) => (String.ofList s, last)
  | _ =>
    match cs.takeWhile isBare with
    | [] => none
    | name => some (String.ofList name, cs.dropWhile isBare)

def readKey : Nat → List Char → Read (List String)
  | 0, _ => none
  | fuel + 1, cs =>
    match readKeyPart (skipBlanks cs) with
    | none => none
    | some (part, rest) =>
      match skipBlanks rest with
      | '.' :: more => (readKey fuel more).map fun (parts, last) => (part :: parts, last)
      | after => some ([part], after)

def nestingLimit : Nat := 80

def digitsOnly? (isDigit : Char → Bool) : List Char → Option (List Char)
  | [] => none
  | [c] => if isDigit c then some [c] else none
  | c :: '_' :: rest => if isDigit c then (digitsOnly? isDigit rest).map (c :: ·) else none
  | c :: rest => if isDigit c then (digitsOnly? isDigit rest).map (c :: ·) else none

def decimalValue (digits : List Char) : Nat :=
  digits.foldl (fun n c => 10 * n + (c.toNat - 48)) 0

def plainDigits? (cs : List Char) : Option (List Char) :=
  match cs, digitsOnly? Char.isDigit cs with
  | '0' :: _ :: _, _ => none
  | _, found => found

def inRange? (n : Int) : Option Int :=
  if Int64.minValue.toInt ≤ n ∧ n ≤ Int64.maxValue.toInt then some n else none

def radixValue? (radix : Nat) (cs : List Char) : Option Int :=
  let digit (c : Char) : Option Nat := (Text.hexValue? c).filter fun n => n < radix
  match digitsOnly? (fun c => (digit c).isSome) cs with
  | none => none
  | some digits => inRange? (digits.foldl (fun n c => radix * n + (digit c).getD 0) 0 : Nat)

def integer? : List Char → Option Int
  | '0' :: 'x' :: rest => radixValue? 16 rest
  | '0' :: 'o' :: rest => radixValue? 8 rest
  | '0' :: 'b' :: rest => radixValue? 2 rest
  | '-' :: rest => (plainDigits? rest).bind fun ds => inRange? (-(decimalValue ds : Int))
  | '+' :: rest => (plainDigits? rest).bind fun ds => inRange? (decimalValue ds)
  | cs => (plainDigits? cs).bind fun ds => inRange? (decimalValue ds)

def dropSign : List Char → List Char
  | '+' :: rest => rest
  | '-' :: rest => rest
  | cs => cs

def exponent? : List Char → Option Int
  | '-' :: rest => (digitsOnly? Char.isDigit rest).map fun ds => -(decimalValue ds : Int)
  | cs => (digitsOnly? Char.isDigit (dropSign cs)).map fun ds => (decimalValue ds : Int)

-- The least number that rounds to infinity in binary64: 2^1024 - 2^970.
def floatBound : Nat := (Nat.pow 2 54 - 1) * Nat.pow 2 970

-- Whether digits · 10^exponent reaches that bound. It has 309 digits, so other
-- numbers of digits decide without the power.
def reachesFloatBound (digits : List Char) (exponent : Int) : Bool :=
  let significant := digits.dropWhile fun c => c = '0'
  let order := significant.length + exponent
  if significant.isEmpty || order < 309 then false
  else if 309 < order then true
  else
    floatBound * Nat.pow 10 (-exponent).toNat ≤ decimalValue significant * Nat.pow 10 exponent.toNat

def floatParts? (unsigned : List Char) : Option (List Char × Int) :=
  let mark := fun c : Char => c = 'e' || c = 'E'
  let mantissa := unsigned.takeWhile fun c => !mark c
  let power := match unsigned.dropWhile fun c => !mark c with
    | [] => some 0
    | _ :: rest => exponent? rest
  match Text.pieces '.' mantissa with
  | [whole] => do
    let digits ← plainDigits? whole
    if mantissa.length = unsigned.length then none else return (digits, ← power)
  | [whole, fraction] => do
    let digits ← plainDigits? whole
    let more ← digitsOnly? Char.isDigit fraction
    return (digits ++ more, (← power) - more.length)
  | _ => none

-- Infinity may be named, and a negative number may round to it; a positive one may
-- not.
def isFloat (cs : List Char) : Bool :=
  let unsigned := dropSign cs
  unsigned = ['i', 'n', 'f'] || unsigned = ['n', 'a', 'n'] ||
    match floatParts? unsigned with
    | some (digits, exponent) => ['-'].isPrefixOf cs || !reachesFloatBound digits exponent
    | none => false

def number? (width : Nat) (cs : List Char) : Option Nat :=
  if cs.length = width ∧ cs.all Char.isDigit then some (decimalValue cs) else none

def daysIn (year month : Nat) : Nat :=
  if month = 2 then
    if year % 4 = 0 ∧ (year % 100 ≠ 0 ∨ year % 400 = 0) then 29 else 28
  else if month = 4 ∨ month = 6 ∨ month = 9 ∨ month = 11 then 30
  else 31

def isDate (cs : List Char) : Bool :=
  match (Text.pieces '-' cs) with
  | [y, m, d] =>
    match number? 4 y, number? 2 m, number? 2 d with
    | some year, some month, some day =>
      1 ≤ month && month ≤ 12 && 1 ≤ day && day ≤ daysIn year month
    | _, _, _ => false
  | _ => false

def isClock (cs : List Char) : Bool :=
  let seconds := fun s : List Char =>
    match Text.pieces '.' s with
    | [whole] => number? 2 whole
    | [whole, fraction] =>
      if !fraction.isEmpty && fraction.all Char.isDigit then number? 2 whole else none
    | _ => none
  match Text.pieces ':' cs with
  | [h, m, s] =>
    match number? 2 h, number? 2 m, seconds s with
    | some hour, some minute, some second => hour < 24 && minute < 60 && second ≤ 60
    | _, _, _ => false
  | _ => false

def isOffset : List Char → Bool
  | ['Z'] => true
  | ['z'] => true
  | sign :: rest =>
    (sign = '+' || sign = '-') &&
      match Text.pieces ':' rest with
      | [h, m] =>
        match number? 2 h, number? 2 m with
        | some hour, some minute => hour < 24 && minute < 60
        | _, _ => false
      | _ => false
  | [] => false

def isTime (offsetAllowed : Bool) (cs : List Char) : Bool :=
  let isOffsetMark := fun c : Char => c = 'Z' || c = 'z' || c = '+' || c = '-'
  let clock := cs.takeWhile fun c => !isOffsetMark c
  let offset := cs.dropWhile fun c => !isOffsetMark c
  isClock clock && (offset.isEmpty || (offsetAllowed && isOffset offset))

def isDateTime (cs : List Char) : Bool :=
  isDate cs || isTime false cs ||
    (isDate (cs.take 10) &&
      match cs.drop 10 with
      | c :: rest => (c = 'T' || c = 't' || c = ' ') && isTime true rest
      | [] => false)

def isScalarChar (c : Char) : Bool :=
  c.isAlphanum || c = '+' || c = '-' || c = '_' || c = '.' || c = ':'

def scalar? (cs : List Char) : Option Toml :=
  if cs = "true".toList then some (.bool true)
  else if cs = "false".toList then some (.bool false)
  else
    match integer? cs with
    | some n => some (.integer n)
    | none => if isFloat cs then some .float else if isDateTime cs then some .dateTime else none

def scalarSpan (cs : List Char) : List Char × List Char :=
  let first := cs.takeWhile isScalarChar
  let rest := cs.dropWhile isScalarChar
  match rest with
  | ' ' :: c :: more =>
    if isDate first ∧ c.isDigit then
      (first ++ ' ' :: (c :: more).takeWhile isScalarChar, (c :: more).dropWhile isScalarChar)
    else (first, rest)
  | _ => (first, rest)

def readScalar (cs : List Char) : Read Toml :=
  let (span, rest) := scalarSpan cs
  (scalar? span).map fun value => (value, rest)

-- How a table came to be: named by a header, passed on the way to one, or made
-- by a dotted key.
inductive Origin where
  | header
  | passed
  | dotted
  deriving DecidableEq

inductive Node where
  | leaf (value : Toml)
  | table (origin : Origin) (fields : List (String × Node))
  | tables (items : List (List (String × Node)))

abbrev Fields := List (String × Node)

def lookup (fields : Fields) (key : String) : Option Node :=
  (fields.find? fun field => field.1 = key).map Prod.snd

def put (fields : Fields) (key : String) (node : Node) : Fields :=
  fields.filter (fun field => field.1 ≠ key) ++ [(key, node)]

def onLast (change : Fields → Option Fields) : List Fields → Option (List Fields)
  | [] => none
  | [item] => (change item).map fun changed => [changed]
  | item :: rest => (onLast change rest).map (item :: ·)

def descend (change : Fields → Option Fields) : List String → Fields → Option Fields
  | [], fields => change fields
  | key :: path, fields =>
    match lookup fields key with
    | none => (descend change path []).map fun inner => put fields key (.table .passed inner)
    | some (.leaf _) => none
    | some (.table origin inner) =>
      (descend change path inner).map fun changed => put fields key (.table origin changed)
    | some (.tables items) =>
      (onLast (descend change path) items).map fun changed => put fields key (.tables changed)

-- Goes down a dotted key. A table named by a header is closed to dotted keys, and
-- the table that takes the value has to be made by them.
def putDotted (value : Toml) (last : String) (origin : Origin) :
    List String → Fields → Option Fields
  | [], fields =>
    match lookup fields last with
    | none => if origin = .dotted then some (put fields last (.leaf value)) else none
    | some _ => none
  | key :: path, fields =>
    match lookup fields key with
    | none => (putDotted value last .dotted path []).map fun inner =>
        put fields key (.table .dotted inner)
    | some (.leaf _) => none
    | some (.table .header _) => none
    | some (.table found inner) => (putDotted value last found path inner).map fun changed =>
        put fields key (.table found changed)
    | some (.tables items) => (onLast (putDotted value last .header path) items).map fun changed =>
        put fields key (.tables changed)

def putPlain (value : Toml) (key : String) (fields : Fields) : Option Fields :=
  match lookup fields key with
  | none => some (put fields key (.leaf value))
  | some _ => none

def putValue (value : Toml) (path : List String) (fields : Fields) : Option Fields :=
  match path.getLast? with
  | none => none
  | some last =>
    match path.dropLast with
    | [] => putPlain value last fields
    | before => putDotted value last .header before fields

def openTable (key : String) (fields : Fields) : Option Fields :=
  match lookup fields key with
  | none => some (put fields key (.table .header []))
  | some (.table .passed inner) => some (put fields key (.table .header inner))
  | some _ => none

def openItem (key : String) (fields : Fields) : Option Fields :=
  match lookup fields key with
  | none => some (put fields key (.tables [[]]))
  | some (.tables items) => some (put fields key (.tables (items ++ [[]])))
  | some _ => none

mutual

def Node.value : Node → Toml
  | .leaf value => value
  | .table _ fields => .table (fieldValues fields)
  | .tables items => .list (itemValues items)

def fieldValues : List (String × Node) → List (String × Toml)
  | [] => []
  | (key, node) :: rest => (key, node.value) :: fieldValues rest

def itemValues : List (List (String × Node)) → List Toml
  | [] => []
  | fields :: rest => .table (fieldValues fields) :: itemValues rest

end

mutual

def readValue : Nat → Nat → List Char → Read Toml
  | 0, _, _ => none
  | fuel + 1, depth, cs =>
    match cs with
    | '"' :: _ => (readString cs).map fun (s, rest) => (.text (String.ofList s), rest)
    | '\'' :: _ => (readString cs).map fun (s, rest) => (.text (String.ofList s), rest)
    | '[' :: rest =>
      if depth + 1 < nestingLimit then
        (readItems fuel (depth + 1) rest).map fun (items, last) => (.list items, last)
      else none
    | '{' :: rest =>
      if depth + 1 < nestingLimit then
        match skipBlanks rest with
        | '}' :: last => some (.table [], last)
        | inner => (readPairs fuel (depth + 1) [] inner).map fun (fields, last) =>
            (.table (fieldValues fields), last)
      else none
    | _ => readScalar cs

def readItems : Nat → Nat → List Char → Read (List Toml)
  | 0, _, _ => none
  | fuel + 1, depth, cs =>
    match skipGaps cs.length cs with
    | ']' :: last => some ([], last)
    | start =>
      match readValue fuel depth start with
      | none => none
      | some (item, rest) =>
        match skipGaps rest.length rest with
        | ',' :: more => (readItems fuel depth more).map fun (items, last) => (item :: items, last)
        | ']' :: last => some ([item], last)
        | _ => none

def readPairs : Nat → Nat → Fields → List Char → Read Fields
  | 0, _, _, _ => none
  | fuel + 1, depth, fields, cs =>
    match readKey (nestingLimit - 1) cs with
    | some (path, '=' :: rest) =>
      match readValue fuel depth (skipBlanks rest) with
      | none => none
      | some (value, after) =>
        match putValue value path fields with
        | none => none
        | some added =>
          match skipBlanks after with
          | ',' :: more => readPairs fuel depth added more
          | '}' :: last => some (added, last)
          | _ => none
    | _ => none

end

structure Draft where
  fields : Fields
  current : List String

def Draft.header (draft : Draft) (step : String → Fields → Option Fields) (path : List String) :
    Option Draft :=
  match path.getLast? with
  | none => none
  | some last => (descend (step last) path.dropLast draft.fields).map fun fields => ⟨fields, path⟩

def readHeader (draft : Draft) (cs : List Char) : Read Draft :=
  match cs with
  | '[' :: '[' :: rest =>
    match readKey (nestingLimit - 1) rest with
    | some (path, ']' :: ']' :: last) => (draft.header openItem path).map fun d => (d, last)
    | _ => none
  | '[' :: rest =>
    match readKey (nestingLimit - 1) rest with
    | some (path, ']' :: last) => (draft.header openTable path).map fun d => (d, last)
    | _ => none
  | _ => none

def readAssignment (draft : Draft) (cs : List Char) : Read Draft :=
  match readKey (nestingLimit - 1) cs with
  | some (path, '=' :: rest) =>
    match readValue (rest.length + 1) 0 (skipBlanks rest) with
    | none => none
    | some (value, last) =>
      (descend (putValue value path) draft.current draft.fields).map fun fields =>
        ({ draft with fields }, last)
  | _ => none

def readLine (draft : Draft) (cs : List Char) : Read Draft :=
  match skipBlanks cs with
  | [] => some (draft, [])
  | '#' :: rest => some (draft, '#' :: rest)
  | '\n' :: rest => some (draft, '\n' :: rest)
  | '\r' :: rest => some (draft, '\r' :: rest)
  | '[' :: rest => readHeader draft ('[' :: rest)
  | start => readAssignment draft start

def readLines : Nat → Draft → List Char → Option Draft
  | _, draft, [] => some draft
  | 0, _, _ :: _ => none
  | fuel + 1, draft, cs =>
    match readLine draft cs with
    | none => none
    | some (next, rest) =>
      match endOfLine? rest with
      | none => none
      | some more => readLines fuel next more

def dropMark : List Char → List Char
  | '\ufeff' :: rest => rest
  | cs => cs

def read? (text : String) : Option (List (String × Toml)) :=
  let cs := dropMark text.toList
  (readLines (cs.length + 1) ⟨[], []⟩ cs).map fun draft => fieldValues draft.fields

end Toml
end SignedLedger

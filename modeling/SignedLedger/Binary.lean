import SignedLedger.Text.Utf8

-- Byte layouts. Numbers have a fixed width with the low byte first; whatever
-- varies in length is preceded by its length in eight bytes.
namespace SignedLedger.Binary

def littleEndian : Nat → Nat → List UInt8
  | 0, _ => []
  | count + 1, n => UInt8.ofNat (n % 256) :: littleEndian count (n / 256)

def ofLittleEndian : List UInt8 → Nat
  | [] => 0
  | b :: rest => b.toNat + 256 * ofLittleEndian rest

def bigEndian : Nat → Nat → List UInt8
  | 0, _ => []
  | count + 1, n => bigEndian count (n / 256) ++ [UInt8.ofNat (n % 256)]

def ofBigEndian (bytes : List UInt8) : Nat := bytes.foldl (fun n b => 256 * n + b.toNat) 0

def count (n : Nat) : List UInt8 := littleEndian 8 n

def blob (bytes : List UInt8) : List UInt8 := count bytes.length ++ bytes

def text (s : String) : List UInt8 := blob (Text.utf8 s)

def list {α : Type} (encode : α → List UInt8) (items : List α) : List UInt8 :=
  count items.length ++ items.flatMap encode

def option {α : Type} (encode : α → List UInt8) : Option α → List UInt8
  | none => [0]
  | some a => 1 :: encode a

def flag (b : Bool) : List UInt8 := [if b then 1 else 0]

def variant (n : Nat) : List UInt8 := littleEndian 4 n

theorem littleEndian_length (count n : Nat) : (littleEndian count n).length = count := by
  induction count generalizing n with
  | zero => rfl
  | succ count ih => simp [littleEndian, ih]

theorem bigEndian_length (count n : Nat) : (bigEndian count n).length = count := by
  induction count generalizing n with
  | zero => rfl
  | succ count ih => simp [bigEndian, ih]

end SignedLedger.Binary

import SignedLedger.Binary

-- The SHA-2 hash family: one compression for two word sizes. A message is padded
-- to whole blocks of sixteen words and folded block by block into eight registers.
namespace SignedLedger.Sha2
open Binary

structure Registers (word : Type) where
  a : word
  b : word
  c : word
  d : word
  e : word
  f : word
  g : word
  h : word

-- What the two members of the family do not share. Sizes are in bytes.
structure Variant (word : Type) where
  wordBytes : Nat
  lengthBytes : Nat
  ofNat : Nat → word
  toNat : word → Nat
  add : word → word → word
  choose : word → word → word → word
  majority : word → word → word → word
  bigSigma0 : word → word
  bigSigma1 : word → word
  smallSigma0 : word → word
  smallSigma1 : word → word
  constants : List word
  initial : Registers word

def chunks {α : Type} (size : Nat) : Nat → List α → List (List α)
  | 0, _ => []
  | count + 1, items => items.take size :: chunks size count (items.drop size)

section
variable {word : Type} (v : Variant word)

def blockBytes : Nat := 16 * v.wordBytes

def padding (length : Nat) : List UInt8 :=
  let used := (length + 1 + v.lengthBytes) % blockBytes v
  let zeros := if used = 0 then 0 else blockBytes v - used
  0x80 :: List.replicate zeros 0 ++ bigEndian v.lengthBytes (8 * length)

def blocks (message : List UInt8) : List (List word) :=
  let padded := message ++ padding v message.length
  (chunks (blockBytes v) (padded.length / blockBytes v) padded).map fun block =>
    (chunks v.wordBytes 16 block).map fun bytes => v.ofNat (ofBigEndian bytes)

def nextWord (words : Array word) : word :=
  let back (k : Nat) : word := words.getD (words.size - k) (v.ofNat 0)
  v.add (v.add (v.smallSigma1 (back 2)) (back 7)) (v.add (v.smallSigma0 (back 15)) (back 16))

def schedule (block : List word) : List word :=
  let extended := (List.range (v.constants.length - 16)).foldl
    (fun words _ => words.push (nextWord v words)) block.toArray
  extended.toList

def round (r : Registers word) (constant scheduled : word) : Registers word :=
  let t1 := v.add (v.add (v.add r.h (v.bigSigma1 r.e)) (v.add (v.choose r.e r.f r.g) constant)) scheduled
  let t2 := v.add (v.bigSigma0 r.a) (v.majority r.a r.b r.c)
  ⟨v.add t1 t2, r.a, r.b, r.c, v.add r.d t1, r.e, r.f, r.g⟩

def compress (r : Registers word) (block : List word) : Registers word :=
  let s := (v.constants.zip (schedule v block)).foldl (fun r kw => round v r kw.1 kw.2) r
  ⟨v.add r.a s.a, v.add r.b s.b, v.add r.c s.c, v.add r.d s.d,
    v.add r.e s.e, v.add r.f s.f, v.add r.g s.g, v.add r.h s.h⟩

def digestWords (message : List UInt8) : Registers word :=
  (blocks v message).foldl (compress v) v.initial

def digest (message : List UInt8) : List UInt8 :=
  let r := digestWords v message
  [r.a, r.b, r.c, r.d, r.e, r.f, r.g, r.h].flatMap fun w => bigEndian v.wordBytes (v.toNat w)

end

theorem digest_length {word : Type} (v : Variant word) (message : List UInt8) :
    (digest v message).length = 8 * v.wordBytes := by
  simp [digest, bigEndian_length]; omega

end SignedLedger.Sha2

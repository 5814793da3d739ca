import SignedLedger.Identity.Network

-- Weighted key sets. An account is opened by signs whose weights reach the
-- threshold; the set also names the account, by the digest of its bytes.
namespace SignedLedger

structure AccountKey where
  key : PublicKey
  weight : UInt8
  deriving DecidableEq

def sumOfWeights : List UInt8 → Nat
  | [] => 0
  | weight :: rest => weight.toNat + sumOfWeights rest

def totalWeight (keys : List AccountKey) : Nat := sumOfWeights (keys.map AccountKey.weight)

-- Weights and threshold run from 1 to 100, no key occurs twice, and all keys
-- together reach the threshold.
structure AccountKeys.Valid (keys : List AccountKey) (threshold : UInt8) : Prop where
  inhabited : keys ≠ []
  threshold_pos : 0 < threshold.toNat
  threshold_le : threshold.toNat ≤ 100
  weight_pos : ∀ k ∈ keys, 0 < k.weight.toNat
  weight_le : ∀ k ∈ keys, k.weight.toNat ≤ 100
  distinct : (keys.map AccountKey.key).Nodup
  reachable : threshold.toNat ≤ totalWeight keys

instance (keys : List AccountKey) (threshold : UInt8) :
    Decidable (AccountKeys.Valid keys threshold) :=
  decidable_of_iff
    (keys ≠ [] ∧ 0 < threshold.toNat ∧ threshold.toNat ≤ 100 ∧
      (∀ k ∈ keys, 0 < k.weight.toNat) ∧ (∀ k ∈ keys, k.weight.toNat ≤ 100) ∧
      (keys.map AccountKey.key).Nodup ∧ threshold.toNat ≤ totalWeight keys)
    ⟨fun ⟨a, b, c, d, e, f, g⟩ => ⟨a, b, c, d, e, f, g⟩,
      fun v => ⟨v.inhabited, v.threshold_pos, v.threshold_le, v.weight_pos, v.weight_le,
        v.distinct, v.reachable⟩⟩

structure AccountKeys where
  keys : List AccountKey
  threshold : UInt8
  valid : AccountKeys.Valid keys threshold
  deriving DecidableEq

namespace AccountKeys

def keyProblem? (seen : List PublicKey) : List AccountKey → Option Malformed
  | [] => none
  | k :: rest =>
    if k.weight = 0 ∨ 100 < k.weight then some (.weight k.weight k.key)
    else if k.key ∈ seen then some (.repeatedKey k.key)
    else keyProblem? (k.key :: seen) rest

def firstProblem (keys : List AccountKey) (threshold : UInt8) : Malformed :=
  if keys.isEmpty then .noKeys
  else if threshold = 0 ∨ 100 < threshold then .threshold threshold
  else match keyProblem? [] keys with
    | some problem => problem
    | none => .weightSum (totalWeight keys) threshold

def ofKeys (keys : List AccountKey) (threshold : UInt8) : Except Malformed AccountKeys :=
  if valid : Valid keys threshold then .ok ⟨keys, threshold, valid⟩
  else .error (firstProblem keys threshold)

def single (key : PublicKey) : AccountKeys where
  keys := [⟨key, 100⟩]
  threshold := 100
  valid := ⟨by simp, by decide, by decide, by simp, by simp, by simp, by simp [totalWeight, sumOfWeights]⟩

def weightOf (set : AccountKeys) (key : PublicKey) : Option UInt8 :=
  (set.keys.find? fun k => k.key = key).map AccountKey.weight

def encodeKey (k : AccountKey) : List UInt8 := k.key.bytes ++ [k.weight]

def encode (set : AccountKeys) : List UInt8 :=
  Binary.list encodeKey set.keys ++ [set.threshold]

def deriveAddress (bytes : List UInt8) : Address :=
  let chars := (Text.hexChars (Digest.of bytes).bytes).take 40
  have plain : ∀ c ∈ chars, c.isAlphanum = true := fun c member =>
    Text.hexChars_alphanum _ c (List.mem_of_mem_take member)
  have length : chars.length = 40 := by
    simp [chars, Text.hexChars_length, (Digest.of bytes).size]
  have size : (String.ofList chars).utf8ByteSize = 40 := by
    rw [Text.utf8ByteSize_of_alphanum chars plain, length]
  ⟨String.ofList chars, by omega, by omega, by simpa [List.all_eq_true] using plain⟩

def address (set : AccountKeys) : Address := deriveAddress set.encode

def contractAddress (set : AccountKeys) (owner : Address) : Address :=
  deriveAddress (set.encode ++ Text.utf8 owner.text)

end AccountKeys
end SignedLedger

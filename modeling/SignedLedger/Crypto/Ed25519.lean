import SignedLedger.Crypto.Curve
import SignedLedger.Crypto.Sha512

-- Signatures on the Edwards curve. Verification recomputes the first half of a
-- signature and compares bytes; the second half must be below the group order.
namespace SignedLedger.Ed25519
open Curve Binary

def hashNumber (bytes : List UInt8) : Nat := ofLittleEndian (Sha512.digest bytes)

def clamp (n : Nat) : Nat := n % Nat.pow 2 254 / 8 * 8 + Nat.pow 2 254

structure Secret where
  scalar : Nat
  nonceKey : List UInt8

def expand (seed : List UInt8) : Secret :=
  let hashed := Sha512.digest seed
  ⟨clamp (ofLittleEndian (hashed.take 32)), hashed.drop 32⟩

def publicBytes (seed : List UInt8) : List UInt8 := (base.scale (expand seed).scalar).encode

def challenge (r key message : List UInt8) : Nat := hashNumber (r ++ key ++ message) % order

def sign (seed message : List UInt8) : List UInt8 :=
  let secret := expand seed
  let key := (base.scale secret.scalar).encode
  let nonce := hashNumber (secret.nonceKey ++ message) % order
  let r := (base.scale nonce).encode
  let s := (nonce + challenge r key message * secret.scalar) % order
  r ++ littleEndian 32 s

inductive Verdict where
  | valid
  | unusableKey
  | highScalar
  | mismatch
  deriving DecidableEq

def verify (key message signature : List UInt8) : Verdict :=
  match Point.decode? key with
  | none => .unusableKey
  | some point =>
    let r := signature.take 32
    let s := ofLittleEndian (signature.drop 32)
    if order ≤ s then .highScalar
    else
      let k := challenge r key message
      if ((base.scale s).add (point.neg.scale k)).encode = r then .valid else .mismatch

theorem encode_length (p : Point) : p.encode.length = 32 := littleEndian_length 32 _

theorem publicBytes_length (seed : List UInt8) : (publicBytes seed).length = 32 := encode_length _

theorem sign_length (seed message : List UInt8) : (sign seed message).length = 64 := by
  simp [sign, encode_length, littleEndian_length]

end SignedLedger.Ed25519

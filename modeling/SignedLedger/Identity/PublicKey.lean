import SignedLedger.Crypto.Ed25519
import SignedLedger.Text.Hex

namespace SignedLedger

structure PublicKey where
  bytes : List UInt8
  size : bytes.length = 32

structure Signature where
  bytes : List UInt8
  size : bytes.length = 64

namespace PublicKey

theorem ext {a b : PublicKey} (same : a.bytes = b.bytes) : a = b := by
  cases a; cases b; simpa using same

instance : DecidableEq PublicKey := fun a b =>
  if same : a.bytes = b.bytes then isTrue (ext same) else isFalse fun equal => same (congrArg bytes equal)

def ofBytes? (bytes : List UInt8) : Option PublicKey :=
  if sized : bytes.length = 32 then some ⟨bytes, sized⟩ else none

def text (key : PublicKey) : String := Text.hex key.bytes

def brief (key : PublicKey) : String := "PublicKey(" ++ Text.hex (key.bytes.take 8) ++ ")"

instance : ToString PublicKey := ⟨text⟩

def le (a b : PublicKey) : Bool := decide (a.bytes ≤ b.bytes)

def verifies (key : PublicKey) (message : List UInt8) (signature : Signature) : Bool :=
  Ed25519.verify key.bytes message signature.bytes = .valid

end PublicKey

namespace Signature

theorem ext {a b : Signature} (same : a.bytes = b.bytes) : a = b := by
  cases a; cases b; simpa using same

instance : DecidableEq Signature := fun a b =>
  if same : a.bytes = b.bytes then isTrue (ext same) else isFalse fun equal => same (congrArg bytes equal)

def ofBytes? (bytes : List UInt8) : Option Signature :=
  if sized : bytes.length = 64 then some ⟨bytes, sized⟩ else none

def text (signature : Signature) : String := Text.hex signature.bytes

def brief (signature : Signature) : String :=
  "Signature(" ++ Text.hex (signature.bytes.take 8) ++ "..)"

instance : ToString Signature := ⟨text⟩

end Signature

structure KeyPair where
  seed : List UInt8

namespace KeyPair

def publicKey (pair : KeyPair) : PublicKey :=
  ⟨Ed25519.publicBytes pair.seed, Ed25519.publicBytes_length pair.seed⟩

def sign (pair : KeyPair) (message : List UInt8) : Signature :=
  ⟨Ed25519.sign pair.seed message, Ed25519.sign_length pair.seed message⟩

def verdict (pair : KeyPair) (message : List UInt8) (signature : Signature) : Ed25519.Verdict :=
  Ed25519.verify pair.publicKey.bytes message signature.bytes

end KeyPair
end SignedLedger

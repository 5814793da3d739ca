import SignedLedger.Crypto.Sha256
import SignedLedger.Text.Hex

namespace SignedLedger

structure Digest where
  bytes : List UInt8
  size : bytes.length = 32

namespace Digest

def of (message : List UInt8) : Digest := ⟨Sha256.digest message, Sha256.digest_length message⟩

def ofBytes? (bytes : List UInt8) : Option Digest :=
  if size : bytes.length = 32 then some ⟨bytes, size⟩ else none

def text (d : Digest) : String := Text.hex d.bytes

def brief (d : Digest) : String := "Hash(" ++ Text.hex (d.bytes.take 8) ++ ")"

instance : ToString Digest := ⟨text⟩

theorem ext {a b : Digest} (same : a.bytes = b.bytes) : a = b := by
  cases a; cases b; simpa using same

instance : DecidableEq Digest := fun a b =>
  if same : a.bytes = b.bytes then isTrue (ext same) else isFalse fun equal => same (congrArg bytes equal)

end Digest
end SignedLedger

import SignedLedger.Proofs.Binary
import SignedLedger.Proofs.Decimal.Text
import SignedLedger.State.Bytes

-- The parts that facts and states are made of can be read back from their bytes.
-- Addresses, currencies and decimals are short by themselves; for anything longer its
-- size has to fit the eight bytes in front of it.
namespace SignedLedger
open Binary

def Anything {α : Type} (_ : α) : Prop := True

theorem Address.encode_delimited : Delimited Anything Address.encode :=
  text_delimited.via Address.text (fun a _ => Nat.lt_of_le_of_lt a.size_le (by decide))
    fun _ _ => Address.ext

theorem Currency.encode_delimited : Delimited Anything Currency.encode :=
  text_delimited.via Currency.text (fun c _ => Nat.lt_of_le_of_lt c.size_le (by decide))
    fun _ _ => Currency.ext

theorem Decimal.text_size_le (a : Decimal) : a.text.utf8ByteSize ≤ 124 := by
  have bytes (chars : List Char) :
      (chars.flatMap String.utf8EncodeChar).length ≤ 4 * chars.length := by
    induction chars with
    | nil => exact Nat.le_refl 0
    | cons c rest ih =>
      have := c.utf8Size_le_four
      rw [List.flatMap_cons, List.length_append, String.length_utf8EncodeChar, List.length_cons]
      omega
  have length := a.chars_length_le
  have size := bytes a.chars
  rw [Text.utf8ByteSize_eq, Text.utf8, text, String.toList_ofList]
  omega

theorem Decimal.encode_delimited : Delimited Anything Decimal.encode :=
  text_delimited.via Decimal.text (fun a _ => Nat.lt_of_le_of_lt a.text_size_le (by decide))
    fun _ _ => Decimal.text_injective

theorem Amount.encode_delimited : Delimited Anything Amount.encode :=
  (Currency.encode_delimited.append Decimal.encode_delimited).via
    (fun amount : Amount => (amount.currency, amount.value)) (fun _ _ => ⟨trivial, trivial⟩)
    fun | ⟨_, _⟩, ⟨_, _⟩, rfl => rfl

theorem PublicKey.bytes_delimited : Delimited Anything PublicKey.bytes :=
  delimited_of_width PublicKey.size fun _ _ _ _ => PublicKey.ext

theorem octet_delimited : Delimited Anything (fun b : UInt8 => [b]) :=
  delimited_of_width (fun _ => rfl) fun _ _ _ _ => List.singleton_inj.mp

namespace AccountKeys

theorem encodeKey_delimited : Delimited Anything encodeKey :=
  (PublicKey.bytes_delimited.append octet_delimited).via
    (fun k : AccountKey => (k.key, k.weight)) (fun _ _ => ⟨trivial, trivial⟩)
    fun | ⟨_, _⟩, ⟨_, _⟩, rfl => rfl

def Sized (set : AccountKeys) : Prop := set.keys.length < sizeBound

theorem encode_delimited : Delimited Sized encode :=
  ((list_delimited encodeKey_delimited).append octet_delimited).via
    (fun set : AccountKeys => (set.keys, set.threshold))
    (fun _ sized => ⟨⟨sized, fun _ _ => trivial⟩, trivial⟩) fun | ⟨_, _, _⟩, ⟨_, _, _⟩, rfl => rfl

end AccountKeys

namespace VerificationMethod

def Sized (m : VerificationMethod) : Prop := m.id.utf8ByteSize < sizeBound

theorem encode_delimited : Delimited Sized VerificationMethod.encode :=
  (text_delimited.append PublicKey.bytes_delimited).via
    (fun m : VerificationMethod => (m.id, m.publicKey)) (fun _ sized => ⟨sized, trivial⟩)
    fun | ⟨_, _⟩, ⟨_, _⟩, rfl => rfl

end VerificationMethod
end SignedLedger

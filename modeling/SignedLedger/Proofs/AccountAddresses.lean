import SignedLedger.Proofs.Sample
import SignedLedger.Proofs.State.Bytes

-- Where derived addresses come from. The bytes that are hashed tell the key set, whether an
-- owner stands behind it, and which one. So as far as digests keep these bytes apart, an
-- address belongs to one key set, and to one owner or to none.
namespace SignedLedger
open Binary

namespace Text

theorem hexValue_hexDigit : ∀ n : Fin 16, hexValue? (hexDigit n) = some n.val := by decide

theorem unhex_hexChars (bytes : List UInt8) : unhex? (hexChars bytes) = some bytes := by
  induction bytes with
  | nil => rfl
  | cons b rest ih =>
    have small := b.toNat_lt
    have high := hexValue_hexDigit ⟨b.toNat / 16, by omega⟩
    have low := hexValue_hexDigit ⟨b.toNat % 16, by omega⟩
    simp only [hexChars, unhex?, high, low, ih, Option.bind_eq_bind, Option.bind_some]
    rw [Nat.div_add_mod, UInt8.ofNat_toNat]
    rfl

theorem hexChars_injective {bytes bytes' : List UInt8} (same : hexChars bytes = hexChars bytes') :
    bytes = bytes' := by
  have read := unhex_hexChars bytes
  rw [same, unhex_hexChars] at read
  exact (Option.some.inj read).symm

theorem hexChars_take (count : Nat) (bytes : List UInt8) :
    (hexChars bytes).take (2 * count) = hexChars (bytes.take count) := by
  induction bytes generalizing count with
  | nil => simp [hexChars]
  | cons b rest ih =>
    cases count with
    | zero => rfl
    | succ count => simp [Nat.mul_succ, hexChars, ih]

end Text

def Digest.Collide (text text' : List UInt8) : Prop :=
  text ≠ text' ∧ (Digest.of text).bytes.take 20 = (Digest.of text').bytes.take 20

namespace AccountKeys

theorem deriveAddress_text (text : List UInt8) : (deriveAddress text).text.toList =
    Text.hexChars ((Digest.of text).bytes.take 20) := by
  rw [← Text.hexChars_take, deriveAddress, String.toList_ofList]

theorem deriveAddress_shared {text text' : List UInt8} :
    deriveAddress text = deriveAddress text' ↔ text = text' ∨ Digest.Collide text text' := by
  constructor
  · intro same
    by_cases equal : text = text'
    · exact .inl equal
    · refine .inr ⟨equal, Text.hexChars_injective ?_⟩
      rw [← deriveAddress_text, ← deriveAddress_text, same]
  · intro shared
    rcases shared with equal | collide
    · rw [equal]
    · refine Address.ext (String.toList_injective ?_)
      rw [deriveAddress_text, deriveAddress_text, collide.2]

variable {set set' : AccountKeys}

theorem encode_owned (sized : set.Sized) (sized' : set'.Sized) (owner owner' : Address) :
    set.encode ++ Text.utf8 owner.text = set'.encode ++ Text.utf8 owner'.text ↔
      set = set' ∧ owner = owner' := by
  constructor
  · intro same
    obtain ⟨sets, behind⟩ := encode_delimited sized sized' same
    exact ⟨sets, Address.ext (Text.utf8_injective behind)⟩
  · intro ⟨sets, owners⟩
    rw [sets, owners]

theorem encode_unowned (sized : set.Sized) (sized' : set'.Sized) (owner : Address) :
    set.encode ++ Text.utf8 owner.text ≠ set'.encode := by
  intro same
  rw [← List.append_nil set'.encode] at same
  obtain ⟨_, nameless⟩ := encode_delimited sized sized' same
  have size := owner.size_ge
  rw [Text.utf8ByteSize_eq, nameless] at size
  cases size

end AccountKeys

-- The bytes of a key set, with an owner behind them or without, tell the key set, the owner,
-- and whether there is one. An address is shared only by the same key set with the same owner
-- or none, or where digests of different bytes collide.
theorem derivedAddresses_apart {set set' : AccountKeys} (sized : set.Sized) (sized' : set'.Sized)
    (owner owner' : Address) :
    let owned := set.encode ++ Text.utf8 owner.text
    let owned' := set'.encode ++ Text.utf8 owner'.text
    ((set.encode = set'.encode ↔ set = set') ∧ (owned = owned' ↔ set = set' ∧ owner = owner') ∧
      owned ≠ set'.encode) ∧
    (set.address = set'.address ↔ set = set' ∨ Digest.Collide set.encode set'.encode) ∧
    (set.contractAddress owner = set'.contractAddress owner' ↔
      (set = set' ∧ owner = owner') ∨ Digest.Collide owned owned') ∧
    (set.contractAddress owner = set'.address ↔ Digest.Collide owned set'.encode) := by
  intro owned owned'
  have plain : set.encode = set'.encode ↔ set = set' :=
    ⟨AccountKeys.encode_delimited.injective sized sized', congrArg AccountKeys.encode⟩
  have both : owned = owned' ↔ set = set' ∧ owner = owner' :=
    AccountKeys.encode_owned sized sized' owner owner'
  have mixed : owned ≠ set'.encode := AccountKeys.encode_unowned sized sized' owner
  refine ⟨⟨plain, both, mixed⟩, ?_, ?_, ?_⟩
  · exact AccountKeys.deriveAddress_shared.trans (or_congr_left plain)
  · exact AccountKeys.deriveAddress_shared.trans (or_congr_left both)
  · exact AccountKeys.deriveAddress_shared.trans (or_iff_right mixed)

set_option maxRecDepth 100000 in
theorem derivedAddresses_apart_single :
    let set := AccountKeys.single Sample.key
    set.Sized ∧ set.contractAddress Sample.alice ≠ set.address ∧
      set.contractAddress Sample.alice ≠ set.contractAddress Sample.bob := by
  intro set
  have sized : set.Sized := (by decide : 1 < sizeBound)
  obtain ⟨_, _, contracts, mixed⟩ := derivedAddresses_apart sized sized Sample.alice Sample.bob
  refine ⟨sized, fun same => ?_, fun same => ?_⟩
  · exact absurd (mixed.mp same).2 (by decide +kernel)
  · rcases contracts.mp same with ⟨_, owners⟩ | collide
    · exact absurd owners (by decide +kernel)
    · exact absurd collide.2 (by decide +kernel)

end SignedLedger

import Mathlib.Algebra.Group.Nat.Defs
import SignedLedger.Binary

-- Byte layouts that can be read back. In a delimited layout the bytes of a value tell
-- where they end, whatever follows them, so layouts that are written one behind the
-- other are taken apart again from the front.
namespace SignedLedger

theorem Text.utf8_injective {s t : String} (same : utf8 s = utf8 t) : s = t := by
  have bytes (u : String) : u.toByteArray = (utf8 u).toByteArray := by
    rw [← String.ofList_toList (s := u), String.toByteArray_ofList, String.ofList_toList]
    rfl
  refine String.toByteArray_inj.mp ?_
  rw [bytes s, bytes t, same]

namespace Binary
variable {α β : Type}

def sizeBound : Nat := 2 ^ 64

-- Two values of a fitting size whose bytes begin the same text are one value.
def Delimited (sized : α → Prop) (encode : α → List UInt8) : Prop :=
  ∀ ⦃a b : α⦄ ⦃rest rest' : List UInt8⦄, sized a → sized b →
    encode a ++ rest = encode b ++ rest' → a = b ∧ rest = rest'

section Rules
variable {sized : α → Prop} {encode : α → List UInt8}

theorem Delimited.injective (delimited : Delimited sized encode) {a b : α} (small : sized a)
    (small' : sized b) (same : encode a = encode b) : a = b :=
  (delimited small small' (congrArg (· ++ []) same)).1

theorem delimited_of_width {width : Nat} (fixed : ∀ a, (encode a).length = width)
    (injective : ∀ a b, sized a → sized b → encode a = encode b → a = b) :
    Delimited sized encode := by
  intro a b rest rest' small small' same
  obtain ⟨bytes, later⟩ := List.append_inj same ((fixed a).trans (fixed b).symm)
  exact ⟨injective a b small small' bytes, later⟩

theorem Delimited.via (delimited : Delimited sized encode) (view : β → α) {fitting : β → Prop}
    (small : ∀ b, fitting b → sized (view b)) (injective : ∀ b c, view b = view c → b = c) :
    Delimited fitting (fun b => encode (view b)) := by
  intro b c rest rest' fits fits' same
  obtain ⟨seen, later⟩ := delimited (small b fits) (small c fits') same
  exact ⟨injective b c seen, later⟩

theorem Delimited.append {fitting : β → Prop} {encode' : β → List UInt8}
    (front : Delimited sized encode) (back : Delimited fitting encode') :
    Delimited (fun pair : α × β => sized pair.1 ∧ fitting pair.2)
      (fun pair => encode pair.1 ++ encode' pair.2) := by
  rintro ⟨a, b⟩ ⟨a', b'⟩ rest rest' small small' same
  simp only [List.append_assoc] at same
  obtain ⟨rfl, tail⟩ := front small.1 small'.1 same
  obtain ⟨rfl, later⟩ := back small.2 small'.2 tail
  exact ⟨rfl, later⟩

end Rules

theorem ofLittleEndian_littleEndian {count n : Nat} (small : n < 256 ^ count) :
    ofLittleEndian (littleEndian count n) = n := by
  induction count generalizing n with
  | zero =>
    rw [littleEndian, ofLittleEndian]
    omega
  | succ count ih =>
    have upper : n / 256 < 256 ^ count := by
      rw [Nat.div_lt_iff_lt_mul (by decide)]
      rwa [Nat.pow_succ] at small
    rw [littleEndian, ofLittleEndian, ih upper, UInt8.toNat_ofNat_of_lt' (Nat.mod_lt n (by decide))]
    exact Nat.mod_add_div n 256

theorem littleEndian_delimited (count : Nat) :
    Delimited (fun n => n < 256 ^ count) (littleEndian count) := by
  refine delimited_of_width (littleEndian_length count) fun n m small small' same => ?_
  rw [← ofLittleEndian_littleEndian small, same, ofLittleEndian_littleEndian small']

theorem count_delimited : Delimited (fun n => n < sizeBound) count :=
  littleEndian_delimited 8

theorem blob_delimited : Delimited (fun bytes => bytes.length < sizeBound) blob := by
  intro bytes bytes' rest rest' small small' same
  simp only [blob, List.append_assoc] at same
  obtain ⟨length, tail⟩ := count_delimited small small' same
  exact List.append_inj tail length

theorem text_delimited : Delimited (fun s : String => s.utf8ByteSize < sizeBound) text :=
  blob_delimited.via Text.utf8 (fun s small => by rwa [Text.utf8ByteSize_eq] at small)
    fun _ _ => Text.utf8_injective

theorem items_delimited {sized : α → Prop} {encode : α → List UInt8}
    (delimited : Delimited sized encode) {items items' : List α} {rest rest' : List UInt8}
    (small : ∀ item ∈ items, sized item) (small' : ∀ item ∈ items', sized item)
    (length : items.length = items'.length)
    (same : items.flatMap encode ++ rest = items'.flatMap encode ++ rest') :
    items = items' ∧ rest = rest' := by
  induction items generalizing items' with
  | nil =>
    obtain rfl := List.length_eq_zero_iff.mp length.symm
    exact ⟨rfl, same⟩
  | cons item items ih =>
    obtain ⟨item', items', rfl⟩ := List.exists_cons_of_length_eq_add_one length.symm
    simp only [List.flatMap_cons, List.append_assoc] at same
    obtain ⟨rfl, tail⟩ := delimited (small item List.mem_cons_self) (small' item' List.mem_cons_self) same
    obtain ⟨rfl, later⟩ := ih (fun other member => small other (List.mem_cons_of_mem _ member))
      (fun other member => small' other (List.mem_cons_of_mem _ member)) (Nat.succ.inj length) tail
    exact ⟨rfl, later⟩

theorem list_delimited {sized : α → Prop} {encode : α → List UInt8}
    (delimited : Delimited sized encode) :
    Delimited (fun items => items.length < sizeBound ∧ ∀ item ∈ items, sized item)
      (list encode) := by
  intro items items' rest rest' small small' same
  simp only [list, List.append_assoc] at same
  obtain ⟨length, tail⟩ := count_delimited small.1 small'.1 same
  exact items_delimited delimited small.2 small'.2 length tail

end Binary
end SignedLedger

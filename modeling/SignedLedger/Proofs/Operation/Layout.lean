import SignedLedger.Operation.Basic
import SignedLedger.Proofs.State.Bytes

-- Facts can be read back from their bytes. The hint in front tells the type, and behind
-- it every part tells where it ends. Some types have addresses at the end that follow
-- from the parts before them.
namespace SignedLedger
open Binary

def Payment.Sized (p : Payment) : Prop := p.amounts.length < sizeBound

def NewAccount.Sized (item : NewAccount) : Prop :=
  item.keys.Sized ∧ item.amounts.length < sizeBound

def Fact.Sized : Fact → Prop
  | .transfer f => f.token.length < sizeBound ∧
      f.items.length < sizeBound ∧ ∀ item ∈ f.items, item.Sized
  | .createAccount f => f.token.length < sizeBound ∧
      f.items.length < sizeBound ∧ ∀ item ∈ f.items, item.Sized
  | .createContract f => f.token.length < sizeBound ∧
      f.items.length < sizeBound ∧ ∀ item ∈ f.items, item.Sized
  | .withdraw f => f.token.length < sizeBound ∧
      f.items.length < sizeBound ∧ ∀ item ∈ f.items, item.Sized
  | .registerModel f => f.token.length < sizeBound ∧ f.method.utf8ByteSize < sizeBound
  | .createDid f => f.token.length < sizeBound
  | .updateDocument f => f.token.length < sizeBound ∧ f.did.utf8ByteSize < sizeBound ∧
      f.methods.length < sizeBound ∧ ∀ method ∈ f.methods, method.Sized
  | .candidate f => f.token.length < sizeBound
  | .declared f => f.token.length < sizeBound

theorem amounts_delimited : Delimited (fun amounts => amounts.length < sizeBound)
    (Binary.list Amount.encode) :=
  (list_delimited Amount.encode_delimited).via id (fun _ small => ⟨small, fun _ _ => trivial⟩)
    fun _ _ => id

theorem Payment.encode_delimited : Delimited Payment.Sized Payment.encode :=
  (Address.encode_delimited.append amounts_delimited).via (fun p : Payment => (p.party, p.amounts))
    (fun _ sized => ⟨trivial, sized⟩) fun | ⟨_, _⟩, ⟨_, _⟩, rfl => rfl

theorem opening_delimited :
    Delimited (fun front : List UInt8 × Address => front.1.length < sizeBound)
      (fun front => Binary.blob front.1 ++ front.2.encode) :=
  (blob_delimited.append Address.encode_delimited).via id (fun _ small => ⟨small, trivial⟩)
    fun _ _ => id

theorem Transfer.encode_delimited :
    Delimited (fun f => (Fact.transfer f).Sized) Transfer.encode :=
  (opening_delimited.append (list_delimited Payment.encode_delimited)).via
    (fun f : Transfer => ((f.token, f.sender), f.items)) (fun _ sized => sized)
    fun | ⟨_, _, _⟩, ⟨_, _, _⟩, rfl => rfl

theorem Withdraw.encode_delimited :
    Delimited (fun f => (Fact.withdraw f).Sized) Withdraw.encode :=
  (opening_delimited.append (list_delimited Payment.encode_delimited)).via
    (fun f : Withdraw => ((f.token, f.sender), f.items)) (fun _ sized => sized)
    fun | ⟨_, _, _⟩, ⟨_, _, _⟩, rfl => rfl

theorem CreateContract.encodeItem_delimited :
    Delimited NewAccount.Sized CreateContract.encodeItem :=
  (AccountKeys.encode_delimited.append amounts_delimited).via
    (fun item : NewAccount => (item.keys, item.amounts)) (fun _ sized => sized)
    fun | ⟨_, _⟩, ⟨_, _⟩, rfl => rfl

theorem CreateAccount.encodeItem_delimited :
    Delimited NewAccount.Sized CreateAccount.encodeItem :=
  (CreateContract.encodeItem_delimited.append Address.encode_delimited).via
    (fun item : NewAccount => (item, item.keys.address)) (fun _ sized => ⟨sized, trivial⟩)
    fun _ _ same => congrArg Prod.fst same

theorem CreateAccount.encode_delimited :
    Delimited (fun f => (Fact.createAccount f).Sized) CreateAccount.encode :=
  (opening_delimited.append (list_delimited encodeItem_delimited)).via
    (fun f : CreateAccount => ((f.token, f.sender), f.items)) (fun _ sized => sized)
    fun | ⟨_, _, _⟩, ⟨_, _, _⟩, rfl => rfl

theorem CreateContract.encode_delimited :
    Delimited (fun f => (Fact.createContract f).Sized) CreateContract.encode := by
  have addresses := list_delimited Address.encode_delimited
  refine ((opening_delimited.append (list_delimited encodeItem_delimited)).append addresses).via
    (fun f : CreateContract => (((f.token, f.sender), f.items), f.addresses)) ?_ ?_
  · intro f sized
    refine ⟨sized, ?_, fun _ _ => trivial⟩
    simpa [CreateContract.addresses, CreateContract.openings] using sized.2.1
  · rintro ⟨_, _, _⟩ ⟨_, _, _⟩ same
    cases congrArg Prod.fst same
    rfl

theorem RegisterModel.encode_delimited :
    Delimited (fun f => (Fact.registerModel f).Sized) RegisterModel.encode :=
  (((opening_delimited.append Address.encode_delimited).append text_delimited).append
      Currency.encode_delimited).via
    (fun f : RegisterModel => ((((f.token, f.sender), f.contract), f.method), f.currency))
    (fun _ sized => ⟨⟨⟨sized.1, trivial⟩, sized.2⟩, trivial⟩)
    fun | ⟨_, _, _, _, _⟩, ⟨_, _, _, _, _⟩, rfl => rfl

theorem CreateDid.encode_delimited :
    Delimited (fun f => (Fact.createDid f).Sized) CreateDid.encode :=
  (((opening_delimited.append Address.encode_delimited).append PublicKey.bytes_delimited).append
      Currency.encode_delimited).via
    (fun f : CreateDid => ((((f.token, f.sender), f.contract), f.authKey), f.currency))
    (fun _ sized => ⟨⟨⟨sized, trivial⟩, trivial⟩, trivial⟩)
    fun | ⟨_, _, _, _, _⟩, ⟨_, _, _, _, _⟩, rfl => rfl

theorem UpdateDocument.encode_delimited :
    Delimited (fun f => (Fact.updateDocument f).Sized) UpdateDocument.encode :=
  ((((opening_delimited.append Address.encode_delimited).append text_delimited).append
      (list_delimited VerificationMethod.encode_delimited)).append Currency.encode_delimited).via
    (fun f : UpdateDocument =>
      (((((f.token, f.sender), f.contract), f.did), f.methods), f.currency))
    (fun _ sized => ⟨⟨⟨⟨sized.1, trivial⟩, sized.2.1⟩, sized.2.2⟩, trivial⟩)
    fun | ⟨_, _, _, _, _, _⟩, ⟨_, _, _, _, _, _⟩, rfl => rfl

theorem Candidate.encode_delimited :
    Delimited (fun f => (Fact.candidate f).Sized) Candidate.encode :=
  (opening_delimited.append PublicKey.bytes_delimited).via
    (fun f : Candidate => ((f.token, f.candidate), f.publicKey)) (fun _ sized => ⟨sized, trivial⟩)
    fun | ⟨_, _, _⟩, ⟨_, _, _⟩, rfl => rfl

theorem Fact.encodeHint_delimited :
    Delimited (fun hint : Hint => hint.kind.utf8ByteSize < sizeBound) Fact.encodeHint := by
  have number := littleEndian_delimited 2
  refine (((text_delimited.append number).append number).append number).via
    (fun hint : Hint => (((hint.kind, hint.version.major.toNat), hint.version.minor.toNat),
      hint.version.patch.toNat)) ?_ ?_
  · intro hint sized
    exact ⟨⟨⟨sized, hint.version.major.toNat_lt⟩, hint.version.minor.toNat_lt⟩,
      hint.version.patch.toNat_lt⟩
  · rintro ⟨kind, major, minor, patch⟩ ⟨kind', major', minor', patch'⟩ same
    simp only [Prod.mk.injEq, UInt16.toNat_inj] at same
    obtain ⟨⟨⟨rfl, rfl⟩, rfl⟩, rfl⟩ := same
    rfl

namespace FactKind

theorem mem_all (kind : FactKind) : kind ∈ all := by
  cases kind <;> decide

theorem factHint_injective {kind kind' : FactKind} (same : kind.factHint = kind'.factHint) :
    kind = kind' := by
  have apart : ∀ kind ∈ all, ∀ kind' ∈ all, kind.factHint = kind'.factHint → kind = kind' := by
    decide +kernel
  exact apart kind kind.mem_all kind' kind'.mem_all same

theorem factHint_sized (kind : FactKind) : kind.factHint.kind.utf8ByteSize < sizeBound := by
  have small : ∀ kind ∈ all, kind.factHint.kind.utf8ByteSize < sizeBound := by decide +kernel
  exact small kind kind.mem_all

end FactKind

namespace Fact
variable {fact fact' : Fact} {kind : FactKind}

theorem hint_of_kind (builtIn : fact.kind? = some kind) : fact.hint = kind.factHint := by
  cases fact <;> cases builtIn <;> rfl

theorem encode_of_kind (builtIn : fact.kind? = some kind) :
    fact.encode = encodeHint kind.factHint ++ fact.body := by
  rw [← hint_of_kind builtIn]
  cases fact with
  | declared f => cases builtIn
  | _ => rfl

theorem body_delimited (kind : FactKind) :
    Delimited (fun fact : Fact => fact.kind? = some kind ∧ fact.Sized) Fact.body := by
  intro fact fact' rest rest' known known' same
  obtain ⟨typed, sized⟩ := known
  obtain ⟨typed', sized'⟩ := known'
  have wrapped {α : Type} {wrap : α → Fact}
      (delimited : Delimited (fun f => (wrap f).Sized) fun f => (wrap f).body) {f f' : α}
      (small : (wrap f).Sized) (small' : (wrap f').Sized)
      (same : (wrap f).body ++ rest = (wrap f').body ++ rest') :
      wrap f = wrap f' ∧ rest = rest' := by
    obtain ⟨rfl, later⟩ := delimited small small' same
    exact ⟨rfl, later⟩
  -- Of the pairs of types those are left where both are of the kind.
  cases fact <;> cases typed <;> cases fact' <;> cases typed'
  case transfer.refl.transfer.refl => exact wrapped Transfer.encode_delimited sized sized' same
  case createAccount.refl.createAccount.refl =>
    exact wrapped CreateAccount.encode_delimited sized sized' same
  case createContract.refl.createContract.refl =>
    exact wrapped CreateContract.encode_delimited sized sized' same
  case withdraw.refl.withdraw.refl => exact wrapped Withdraw.encode_delimited sized sized' same
  case registerModel.refl.registerModel.refl =>
    exact wrapped RegisterModel.encode_delimited sized sized' same
  case createDid.refl.createDid.refl => exact wrapped CreateDid.encode_delimited sized sized' same
  case updateDocument.refl.updateDocument.refl =>
    exact wrapped UpdateDocument.encode_delimited sized sized' same
  case candidate.refl.candidate.refl => exact wrapped Candidate.encode_delimited sized sized' same

-- The bytes of a built-in fact give the type and the whole content.
theorem encode_delimited :
    Delimited (fun fact : Fact => fact.kind?.isSome = true ∧ fact.Sized) Fact.encode := by
  intro fact fact' rest rest' known known' same
  obtain ⟨builtIn, sized⟩ := known
  obtain ⟨builtIn', sized'⟩ := known'
  obtain ⟨kind, typed⟩ := Option.isSome_iff_exists.mp builtIn
  obtain ⟨kind', typed'⟩ := Option.isSome_iff_exists.mp builtIn'
  rw [encode_of_kind typed, encode_of_kind typed', List.append_assoc, List.append_assoc] at same
  obtain ⟨hint, tail⟩ := encodeHint_delimited kind.factHint_sized kind'.factHint_sized same
  obtain rfl := FactKind.factHint_injective hint
  exact body_delimited kind ⟨typed, sized⟩ ⟨typed', sized'⟩ tail

end Fact
end SignedLedger

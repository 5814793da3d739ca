import SignedLedger.Proofs.Operation.Layout
import SignedLedger.Proofs.Session.Execution
import SignedLedger.Proofs.Signing

-- What the digest of an operation tells, and what it leaves open. It covers the fact and
-- the signs with their times; of the times the checks see nothing, and of the extensions
-- the digest knows nothing.
namespace SignedLedger
open Binary

theorem Signature.bytes_delimited :
    Delimited Anything (fun signature : Signature => Binary.blob signature.bytes) :=
  blob_delimited.via Signature.bytes
    (fun signature _ => by rw [signature.size]; decide) fun _ _ => Signature.ext

namespace Sign

def undated (s : Sign) : Sign := { s with signedAt := ⟨0, 0⟩ }

@[simp] theorem undated_signer (s : Sign) : s.undated.signer = s.signer := rfl

@[simp] theorem undated_signature (s : Sign) : s.undated.signature = s.signature := rfl

theorem undated_verifies {network : NetworkId} {fact : Digest} (s : Sign) :
    s.undated.verifies network fact = s.verifies network fact := by
  unfold verifies
  rw [undated_signer, undated_signature]

def printed (s : Sign) : (PublicKey × Signature) × String :=
  ((s.signer, s.signature), s.signedAt.text)

def Sized (s : Sign) : Prop := s.signedAt.text.utf8ByteSize < sizeBound

def encodePrinted (s : (PublicKey × Signature) × String) : List UInt8 :=
  s.1.1.bytes ++ Binary.blob s.1.2.bytes ++ Binary.text s.2

theorem encodePrinted_delimited :
    Delimited (fun s : (PublicKey × Signature) × String => s.2.utf8ByteSize < sizeBound)
      encodePrinted :=
  ((PublicKey.bytes_delimited.append Signature.bytes_delimited).append text_delimited).via id
    (fun _ small => ⟨⟨trivial, trivial⟩, small⟩) fun _ _ => id

theorem list_encode (signs : List Sign) :
    Binary.list encode signs = Binary.list encodePrinted (signs.map printed) := by
  simp only [Binary.list, List.length_map, List.flatMap_map]
  rfl

theorem undated_of_printed {signs signs' : List Sign}
    (same : signs.map printed = signs'.map printed) : signs.map undated = signs'.map undated := by
  have read (s : Sign) : s.undated = ⟨s.printed.1.1, s.printed.1.2, ⟨0, 0⟩⟩ := rfl
  have reads (signs : List Sign) : signs.map undated =
      (signs.map printed).map fun s => ⟨s.1.1, s.1.2, ⟨0, 0⟩⟩ := by
    rw [List.map_map]
    exact List.map_congr_left fun s _ => read s
  rw [reads, reads, same]

end Sign

namespace Operation
variable {op op' : Operation} {network : NetworkId} {reader : Reader}

def Sized (op : Operation) : Prop :=
  op.fact.Sized ∧ op.signs.length < sizeBound ∧ ∀ sign ∈ op.signs, sign.Sized

def undated (op : Operation) : Operation := { op with signs := op.signs.map Sign.undated }

-- As far as neither the operations nor their facts collide, one digest means one fact,
-- signed by the same keys with the same signatures.
theorem digest_covers (builtIn : op.fact.kind?.isSome = true)
    (builtIn' : op'.fact.kind?.isSome = true) (sized : op.Sized) (sized' : op'.Sized)
    (factsApart : Digest.Separates op.fact.encode op'.fact.encode)
    (apart : Digest.Separates op.encode op'.encode) (same : op.digest = op'.digest) :
    op.fact = op'.fact ∧ op.signs.map Sign.undated = op'.signs.map Sign.undated := by
  have bytes : op.encode = op'.encode := apart same
  unfold encode at bytes
  obtain ⟨front, back⟩ := List.append_inj bytes (op.factDigest.size.trans op'.factDigest.size.symm)
  constructor
  · have digests : op.fact.digest = op'.fact.digest := Digest.ext front
    rw [Fact.digest_encode builtIn, Fact.digest_encode builtIn'] at digests
    exact Fact.encode_delimited.injective ⟨builtIn, sized.1⟩ ⟨builtIn', sized'.1⟩
      (factsApart digests)
  · have fits (signs : List Sign) (small : ∀ sign ∈ signs, sign.Sized) :
        ∀ s ∈ signs.map Sign.printed, s.2.utf8ByteSize < sizeBound := by
      intro s listed
      obtain ⟨sign, member, rfl⟩ := List.mem_map.mp listed
      exact small sign member
    rw [Sign.list_encode, Sign.list_encode] at back
    apply Sign.undated_of_printed
    apply (list_delimited Sign.encodePrinted_delimited).injective _ _ back
    · exact ⟨by rw [List.length_map]; exact sized.2.1, fits _ sized.2.2⟩
    · exact ⟨by rw [List.length_map]; exact sized'.2.1, fits _ sized'.2.2⟩

@[simp] theorem undated_signs : op.undated.signs = op.signs.map Sign.undated := rfl

@[simp] theorem undated_factDigest : op.undated.factDigest = op.factDigest := rfl

theorem checkSigns_undated {fact : Digest} {seen : List PublicKey} {signs : List Sign} :
    checkSigns network fact seen (signs.map Sign.undated) = checkSigns network fact seen signs := by
  induction signs generalizing seen with
  | nil => rfl
  | cons sign rest ih =>
    rw [List.map_cons, checkSigns, ih, checkSigns, Sign.undated_verifies, Sign.undated_signer]

theorem verifySigns_undated : op.undated.verifySigns network = op.verifySigns network := by
  unfold verifySigns
  rw [undated_signs, undated_factDigest, checkSigns_undated, List.isEmpty_map]

theorem verifiedSigners_undated :
    op.undated.verifiedSigners network = op.verifiedSigners network := by
  unfold verifiedSigners
  simp only [undated_signs, undated_factDigest, List.filter_map, List.map_map, Function.comp_def,
    Sign.undated_verifies, Sign.undated_signer]

end Operation

section Stages
variable {settings : Settings} {network : NetworkId} {op : Operation}

theorem checkForm_undated : checkForm settings op.undated = checkForm settings op := by
  unfold checkForm
  rw [Operation.verifySigns_undated]
  rfl

theorem checkThreshold_undated :
    checkThreshold network op.undated = checkThreshold network op := by
  funext account
  unfold checkThreshold
  rw [Operation.verifiedSigners_undated]

theorem checkEntry_undated : checkEntry network op.undated = checkEntry network op := by
  funext reader
  unfold checkEntry authorize authorizeSigner verifyPayment verifySettlement
  rw [checkThreshold_undated]
  rfl

end Stages
end SignedLedger

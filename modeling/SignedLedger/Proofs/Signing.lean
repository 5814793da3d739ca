import SignedLedger.Proofs.Operation.Layout
import SignedLedger.Proofs.Sample

-- What a sign binds its signer to: one network and the whole of one fact, amounts with
-- their spelling included.
namespace SignedLedger
open Binary

def Digest.Separates (text text' : List UInt8) : Prop :=
  Digest.of text = Digest.of text' → text = text'

theorem signMessage_inj {network network' : NetworkId} {digest digest' : Digest}
    (same : signMessage network digest = signMessage network' digest') :
    network = network' ∧ digest = digest' := by
  unfold signMessage at same
  obtain ⟨front, back⟩ := List.append_inj' same (digest.size.trans digest'.size.symm)
  cases network
  cases network'
  exact ⟨congrArg NetworkId.mk front, Digest.ext back⟩

theorem Fact.digest_encode {fact : Fact} (builtIn : fact.kind?.isSome = true) :
    fact.digest = Digest.of fact.encode := by
  unfold digest
  split
  · cases builtIn
  · rfl

-- Two built-in facts with the same bytes are the same fact, and as far as their digests
-- do not collide, so are two with the same sign message.
theorem signMessage_binds {fact fact' : Fact} (builtIn : fact.kind?.isSome = true)
    (builtIn' : fact'.kind?.isSome = true) (sized : fact.Sized) (sized' : fact'.Sized) :
    (fact.encode = fact'.encode ↔ fact = fact') ∧
      (Digest.Separates fact.encode fact'.encode → ∀ network network',
        (signMessage network fact.digest = signMessage network' fact'.digest ↔
          network = network' ∧ fact = fact')) := by
  have bytes (same : fact.encode = fact'.encode) : fact = fact' :=
    Fact.encode_delimited.injective ⟨builtIn, sized⟩ ⟨builtIn', sized'⟩ same
  constructor
  · exact ⟨bytes, congrArg Fact.encode⟩
  · intro separates network network'
    constructor
    · intro same
      obtain ⟨networks, digests⟩ := signMessage_inj same
      rw [Fact.digest_encode builtIn, Fact.digest_encode builtIn'] at digests
      exact ⟨networks, bytes (separates digests)⟩
    · rintro ⟨rfl, rfl⟩
      rfl

namespace Sample

def tenCoins (spelled : Amount) : Fact := .transfer ⟨[1], alice, [⟨bob, [spelled]⟩]⟩

end Sample

set_option maxRecDepth 100000 in
theorem signMessage_binds_spelling :
    (Sample.amount 10 0).agrees (Sample.amount 100 1) = true ∧
      ∀ network network', signMessage network (Sample.tenCoins (Sample.amount 10 0)).digest ≠
        signMessage network' (Sample.tenCoins (Sample.amount 100 1)).digest := by
  have sized (spelled : Amount) : (Sample.tenCoins spelled).Sized := by
    simp [Sample.tenCoins, Fact.Sized, Payment.Sized, sizeBound]
  have apart : (Sample.tenCoins (Sample.amount 10 0)).digest ≠
      (Sample.tenCoins (Sample.amount 100 1)).digest := by decide +kernel
  refine ⟨by decide +kernel, fun network network' same => ?_⟩
  have binds := (signMessage_binds (by rfl) (by rfl) (sized (Sample.amount 10 0))
    (sized (Sample.amount 100 1))).2
  have equal := ((binds (fun same => absurd same apart) network network').mp same).2
  have amounts : Sample.amount 10 0 = Sample.amount 100 1 := by
    simpa [Sample.tenCoins] using equal
  exact absurd amounts (by decide +kernel)

end SignedLedger

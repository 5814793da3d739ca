import Mathlib.Algebra.Order.BigOperators.Group.List
import Mathlib.Algebra.Order.Ring.Nat
import SignedLedger.Proofs.Pipeline.Authorization
import SignedLedger.Proofs.Sample

-- What the signs of an operation weigh for an account: the keys of its set that a sign
-- verifies for, each of them once. How often and in which order they have signed makes no
-- difference, nor do signs that fail or are foreign to the account.
namespace SignedLedger
open Check

namespace PublicKey

theorem le_trans (a b c : PublicKey) (first : a.le b = true) (second : b.le c = true) :
    a.le c = true := by
  simp only [le, decide_eq_true_eq] at first second ⊢
  exact List.le_trans first second

theorem le_total (a b : PublicKey) : (a.le b || b.le a) = true := by
  simp only [le, Bool.or_eq_true, decide_eq_true_eq]
  exact List.le_total _ _

theorem le_antisymm {a b : PublicKey} (first : a.le b = true) (second : b.le a = true) : a = b := by
  simp only [le, decide_eq_true_eq] at first second
  exact ext (List.le_antisymm first second)

end PublicKey

namespace Operation
variable {op : Operation} {network : NetworkId}

theorem mem_dropRepeats {key : PublicKey} {keys : List PublicKey} :
    key ∈ dropRepeats keys ↔ key ∈ keys := by
  fun_induction dropRepeats keys with
  | case1 b rest ih => simp [ih]
  | case2 a b rest _ ih => simp [ih]
  | case3 => rfl

-- In byte order equal keys are neighbours, so that none is left twice.
theorem dropRepeats_nodup {keys : List PublicKey}
    (ordered : keys.Pairwise fun a b => a.le b = true) : (dropRepeats keys).Nodup := by
  fun_induction dropRepeats keys with
  | case1 b rest ih => exact ih (List.pairwise_cons.mp ordered).2
  | case2 a b rest apart ih =>
    obtain ⟨first, later⟩ := List.pairwise_cons.mp ordered
    refine List.nodup_cons.mpr ⟨fun again => ?_, ih later⟩
    rw [mem_dropRepeats] at again
    rcases List.mem_cons.mp again with same | behind
    · exact apart same
    · have between := (List.pairwise_cons.mp later).1 a behind
      exact apart (PublicKey.le_antisymm (first b List.mem_cons_self) between)
  | case3 keys short =>
    match keys, short with
    | [], _ => exact .nil
    | [key], _ => exact List.pairwise_singleton _ key
    | a :: b :: rest, short => exact (short a b rest rfl).elim

def CarriedBy (op : Operation) (network : NetworkId) (key : PublicKey) : Prop :=
  ∃ sign ∈ op.signs, sign.signer = key ∧ sign.verifies network op.factDigest = true

instance (key : PublicKey) : Decidable (op.CarriedBy network key) :=
  inferInstanceAs (Decidable (∃ sign ∈ op.signs, sign.signer = key ∧ _ = true))

theorem mem_verifiedSigners {key : PublicKey} :
    key ∈ op.verifiedSigners network ↔ op.CarriedBy network key := by
  unfold verifiedSigners CarriedBy
  rw [mem_dropRepeats, (List.mergeSort_perm _ _).mem_iff]
  simp only [List.mem_map, List.mem_filter]
  constructor
  · rintro ⟨sign, ⟨member, valid⟩, same⟩
    exact ⟨sign, member, same, valid⟩
  · rintro ⟨sign, member, same, valid⟩
    exact ⟨sign, ⟨member, valid⟩, same⟩

theorem verifiedSigners_nodup : (op.verifiedSigners network).Nodup :=
  dropRepeats_nodup (List.pairwise_mergeSort PublicKey.le_trans PublicKey.le_total _)

end Operation

namespace AccountKeys
variable {set : AccountKeys} {chosen chosen' : PublicKey → Prop} [DecidablePred chosen]
  [DecidablePred chosen']

def weightIn (set : AccountKeys) (chosen : PublicKey → Prop) [DecidablePred chosen] : Nat :=
  ((set.keys.filter fun k => chosen k.key).map fun k => k.weight.toNat).sum

theorem weightIn_congr (alike : ∀ k ∈ set.keys, chosen k.key ↔ chosen' k.key) :
    set.weightIn chosen = set.weightIn chosen' := by
  unfold weightIn
  rw [List.filter_congr fun k member => decide_eq_decide.mpr (alike k member)]

theorem weightOf_mem {k : AccountKey} (member : k ∈ set.keys) :
    set.weightOf k.key = some k.weight := by
  have distinct := set.valid.distinct
  unfold weightOf
  generalize set.keys = keys at member distinct
  induction keys with
  | nil => cases member
  | cons first rest ih =>
    rw [List.map_cons, List.nodup_cons] at distinct
    rcases List.mem_cons.mp member with rfl | later
    · simp
    · have apart : first.key ≠ k.key := fun same =>
        distinct.1 (same ▸ List.mem_map_of_mem later)
      rw [List.find?_cons_of_neg (by simpa using apart)]
      exact ih later distinct.2

theorem weightOf_isSome {key : PublicKey} :
    (set.weightOf key).isSome = true ↔ key ∈ set.keys.map AccountKey.key := by
  simp [weightOf]

theorem sumOfWeights_eq (weights : List UInt8) :
    sumOfWeights weights = (weights.map UInt8.toNat).sum := by
  induction weights with
  | nil => rfl
  | cons weight rest ih => rw [sumOfWeights, ih, List.map_cons, List.sum_cons]

-- Of distinct signers those in the set are the keys of the set that have signed, in
-- another order.
theorem weightOfKeys_eq {signers : List PublicKey} (once : signers.Nodup) :
    weightOfKeys set signers = set.weightIn (· ∈ signers) := by
  have own : (signers.filter fun key => (set.weightOf key).isSome).Perm
      ((set.keys.filter fun k => k.key ∈ signers).map AccountKey.key) := by
    rw [List.perm_ext_iff_of_nodup (once.filter _)
      (set.valid.distinct.sublist (List.filter_sublist.map _))]
    intro key
    rw [List.mem_filter, weightOf_isSome]
    simp only [List.mem_map, List.mem_filter, decide_eq_true_eq]
    constructor
    · rintro ⟨signed, k, member, rfl⟩
      exact ⟨k, ⟨member, signed⟩, rfl⟩
    · rintro ⟨k, ⟨member, signed⟩, rfl⟩
      exact ⟨signed, k, member, rfl⟩
  have weighed : signers.filterMap set.weightOf =
      (signers.filter fun key => (set.weightOf key).isSome).filterMap set.weightOf := by
    rw [List.filterMap_filter]
    exact List.filterMap_congr fun key _ => by cases set.weightOf key <;> rfl
  have known : ((set.keys.filter fun k => k.key ∈ signers).map AccountKey.key).filterMap
      set.weightOf = (set.keys.filter fun k => k.key ∈ signers).map AccountKey.weight := by
    rw [List.filterMap_map, ← List.filterMap_eq_map]
    exact List.filterMap_congr fun k member => weightOf_mem (List.mem_of_mem_filter member)
  unfold weightOfKeys weightIn
  rw [sumOfWeights_eq, weighed, ((own.filterMap _).map _).sum_nat, known, List.map_map]
  rfl

theorem weightIn_le : set.weightIn chosen ≤ totalWeight set.keys := by
  unfold weightIn totalWeight
  rw [sumOfWeights_eq, List.map_map]
  exact (List.filter_sublist.map _).sum_le_sum fun _ _ => Nat.zero_le _

theorem weightIn_all (all : ∀ k ∈ set.keys, chosen k.key) :
    set.weightIn chosen = totalWeight set.keys := by
  unfold weightIn totalWeight
  rw [sumOfWeights_eq, List.map_map, List.filter_eq_self.mpr fun k member => by simpa using all k member]
  rfl

theorem weightIn_none (none : ∀ k ∈ set.keys, ¬ chosen k.key) : set.weightIn chosen = 0 := by
  unfold weightIn
  rw [List.filter_eq_nil_iff.mpr fun k member => by simpa using none k member]
  rfl

theorem totalWeight_le : totalWeight set.keys ≤ set.keys.length * 100 := by
  have each := set.valid.weight_le
  unfold totalWeight
  generalize set.keys = keys at each
  induction keys with
  | nil => exact Nat.le_refl _
  | cons first rest ih =>
    have own := each first List.mem_cons_self
    have others := ih fun k member => each k (List.mem_cons_of_mem _ member)
    rw [List.map_cons, sumOfWeights, List.length_cons]
    omega

end AccountKeys

section Threshold
variable {network : NetworkId} {op op' : Operation} {account : Account} {set : AccountKeys}

theorem weightOfKeys_verifiedSigners :
    weightOfKeys set (op.verifiedSigners network) = set.weightIn (op.CarriedBy network) :=
  (AccountKeys.weightOfKeys_eq Operation.verifiedSigners_nodup).trans
    (AccountKeys.weightIn_congr fun _ _ => Operation.mem_verifiedSigners)

theorem checkThreshold_congr (alike : ∀ set, account.keys = some set → ∀ k ∈ set.keys,
      op.CarriedBy network k.key ↔ op'.CarriedBy network k.key) :
    checkThreshold network op account = checkThreshold network op' account := by
  unfold checkThreshold
  cases held : account.keys with
  | none => rfl
  | some set =>
    dsimp only
    rw [weightOfKeys_verifiedSigners, weightOfKeys_verifiedSigners,
      AccountKeys.weightIn_congr (alike set held)]

theorem require_refused {holds : Bool} {kind : ReasonKind} {message : String}
    (refused : require holds kind message ≠ .ok ()) :
    require holds kind message = reject kind message := by
  cases holds with
  | false => rfl
  | true => exact absurd rfl refused

theorem checkThreshold_refused (refused : checkThreshold network op account ≠ .ok ()) :
    ∃ message, checkThreshold network op account = reject .unauthorized message := by
  unfold checkThreshold at refused ⊢
  cases held : account.keys with
  | none => exact ⟨_, rfl⟩
  | some set =>
    simp only [held] at refused
    exact ⟨_, require_refused refused⟩

-- A sign that adds nothing for an account: it fails, its key is foreign to the account,
-- or its key carries the operation already.
def Sign.Idle (sign : Sign) (network : NetworkId) (op : Operation) (account : Account) : Prop :=
  sign.verifies network op.factDigest = false ∨
    (∀ set, account.keys = some set → sign.signer ∉ set.keys.map AccountKey.key) ∨
    op.CarriedBy network sign.signer

theorem Sign.Idle.carried {sign : Sign} (idle : sign.Idle network op account)
    (held : account.keys = some set) {k : AccountKey} (member : k ∈ set.keys) :
    Operation.CarriedBy { op with signs := sign :: op.signs } network k.key ↔
      op.CarriedBy network k.key := by
  constructor
  · rintro ⟨other, listed, same, valid⟩
    rcases List.mem_cons.mp listed with rfl | before
    · rcases idle with fails | foreign | again
      · exact absurd (fails.symm.trans valid) Bool.false_ne_true
      · exact absurd (same ▸ List.mem_map_of_mem member) (foreign set held)
      · exact same ▸ again
    · exact ⟨other, before, same, valid⟩
  · rintro ⟨other, listed, same, valid⟩
    exact ⟨other, List.mem_cons_of_mem _ listed, same, valid⟩

-- How the signs of an operation count for an account. The last line says that the count
-- fits a word of 32 bits for every set that can be as heavy as that at most.
structure CountsKeysOnce (network : NetworkId) (op : Operation) (account : Account) : Prop where
  accepted : checkThreshold network op account = .ok () ↔ ∃ set, account.keys = some set ∧
    set.threshold.toNat ≤ set.weightIn (op.CarriedBy network)
  refused : checkThreshold network op account ≠ .ok () →
    ∃ message, checkThreshold network op account = reject .unauthorized message
  rearranged : ∀ signs, (∀ sign, sign ∈ signs ↔ sign ∈ op.signs) →
    checkThreshold network { op with signs := signs } account = checkThreshold network op account
  idle : ∀ sign : Sign, sign.Idle network op account →
    checkThreshold network { op with signs := sign :: op.signs } account =
      checkThreshold network op account
  full : ∀ set, account.keys = some set → (∀ k ∈ set.keys, op.CarriedBy network k.key) →
    checkThreshold network op account = .ok ()
  strange : (∀ set, account.keys = some set → ∀ k ∈ set.keys, ¬ op.CarriedBy network k.key) →
    checkThreshold network op account ≠ .ok ()
  fits : ∀ set, account.keys = some set → set.keys.length * 100 < UInt32.size →
    weightOfKeys set (op.verifiedSigners network) < UInt32.size

theorem checkThreshold_counts_once (network : NetworkId) (op : Operation) (account : Account) :
    CountsKeysOnce network op account := by
  have accepted : checkThreshold network op account = .ok () ↔ ∃ set, account.keys = some set ∧
      set.threshold.toNat ≤ set.weightIn (op.CarriedBy network) := by
    simp only [checkThreshold_ok, weightOfKeys_verifiedSigners]
  refine ⟨accepted, checkThreshold_refused, ?_, ?_, ?_, ?_, ?_⟩
  · intro signs same
    refine checkThreshold_congr fun set _ k _ => ?_
    constructor
    · rintro ⟨sign, listed, own, valid⟩
      exact ⟨sign, (same sign).mp listed, own, valid⟩
    · rintro ⟨sign, listed, own, valid⟩
      exact ⟨sign, (same sign).mpr listed, own, valid⟩
  · intro sign idle
    exact checkThreshold_congr fun set held k member => idle.carried held member
  · intro set held all
    refine accepted.mpr ⟨set, held, ?_⟩
    rw [AccountKeys.weightIn_all all]
    exact set.valid.reachable
  · intro none met
    obtain ⟨set, held, reached⟩ := accepted.mp met
    rw [AccountKeys.weightIn_none (none set held)] at reached
    exact absurd set.valid.threshold_pos (Nat.not_lt.mpr reached)
  · intro set _ small
    rw [weightOfKeys_verifiedSigners]
    calc set.weightIn (op.CarriedBy network) ≤ totalWeight set.keys := AccountKeys.weightIn_le
      _ ≤ set.keys.length * 100 := AccountKeys.totalWeight_le
      _ < UInt32.size := small

end Threshold

namespace Sample

def twin : PublicKey := ⟨1 :: (List.replicate 30 0 ++ [128]), by decide⟩

def shared : Account := Account.withKeys alice ⟨[⟨key, 60⟩, ⟨twin, 60⟩], 100, by decide⟩

def signedBy (signers : List PublicKey) : Operation :=
  { plain with signs := signers.map fun signer => ⟨signer, signature, ⟨0, 0⟩⟩ }

end Sample

set_option maxRecDepth 100000 in
theorem shared_opens_to_both :
    checkThreshold Sample.network (Sample.signedBy [Sample.key, Sample.strange, Sample.key])
        Sample.shared ≠ .ok () ∧
      checkThreshold Sample.network (Sample.signedBy [Sample.twin, Sample.key]) Sample.shared =
        .ok () := by
  constructor
  · intro met
    obtain ⟨set, held, reached⟩ := (checkThreshold_counts_once _ _ _).accepted.mp met
    cases held
    revert reached
    decide +kernel
  · exact (checkThreshold_counts_once _ _ _).full _ rfl (by decide +kernel)

end SignedLedger

import SignedLedger.Failure

-- Claims: what an operation takes for itself for the length of a block. Two
-- operations of one block never hold the same claim.
namespace SignedLedger

inductive ClaimType where
  | sender
  | newAccount
  | contractAccount
  | currency
  | didSubject
  | didDocument
  deriving DecidableEq

namespace ClaimType

def text : ClaimType → String
  | .sender => "sender"
  | .newAccount => "new-account"
  | .contractAccount => "contract-account"
  | .currency => "currency"
  | .didSubject => "did-subject"
  | .didDocument => "did-document"

def all : List ClaimType :=
  [.sender, .newAccount, .contractAccount, .currency, .didSubject, .didDocument]

def rank : ClaimType → Nat
  | .sender => 0
  | .newAccount => 1
  | .contractAccount => 2
  | .currency => 3
  | .didSubject => 4
  | .didDocument => 5

end ClaimType

structure Claim where
  type : ClaimType
  key : String
  deriving DecidableEq

def Claim.text (c : Claim) : String := s!"{c.type.text} {c.key}"

structure ClaimSet where
  claims : List Claim
  deriving DecidableEq

namespace ClaimSet

def empty : ClaimSet := ⟨[]⟩

def place (claim : Claim) : List Claim → List Claim
  | [] => [claim]
  | other :: rest =>
    if claim.type.rank < other.type.rank then claim :: other :: rest else other :: place claim rest

def insert (set : ClaimSet) (type : ClaimType) (key : String) : ClaimSet :=
  ⟨place ⟨type, key⟩ set.claims⟩

def ofList (claims : List (ClaimType × String)) : ClaimSet :=
  claims.foldl (fun set claim => set.insert claim.1 claim.2) empty

def keysOf (set : ClaimSet) (type : ClaimType) : List String :=
  (set.claims.filter fun claim => claim.type = type).map Claim.key

def size (set : ClaimSet) : Nat := set.claims.length

end ClaimSet

structure Tracker where
  claimed : List Claim
  distinct : claimed.Nodup
  deriving DecidableEq

namespace Tracker

def empty : Tracker := ⟨[], List.nodup_nil⟩

def size (tracker : Tracker) : Nat := tracker.claimed.length

def conflict? (claimed pending : List Claim) : List Claim → Option Reason
  | [] => none
  | claim :: rest =>
    if claim ∈ pending then some ⟨.duplicated, s!"{claim.text} repeated within operation"⟩
    else if claim ∈ claimed then some ⟨.duplicated, s!"{claim.text} already used in this block"⟩
    else conflict? claimed (claim :: pending) rest

theorem conflict_free {claimed pending claims : List Claim} :
    conflict? claimed pending claims = none ↔
      claims.Nodup ∧ ∀ claim ∈ claims, claim ∉ pending ∧ claim ∉ claimed := by
  induction claims generalizing pending with
  | nil => simp [conflict?]
  | cons claim rest ih =>
    unfold conflict?
    rw [List.nodup_cons, List.forall_mem_cons]
    split
    · rename_i repeated
      simp [repeated]
    · rename_i fresh
      split
      · rename_i taken
        simp [taken]
      · rename_i untaken
        rw [ih]
        constructor
        · rintro ⟨distinct, apart⟩
          refine ⟨⟨fun again => ?_, distinct⟩, ⟨fresh, untaken⟩, fun other later => ?_⟩
          · exact (apart claim again).1 List.mem_cons_self
          · exact ⟨fun held => (apart other later).1 (List.mem_cons_of_mem _ held),
              (apart other later).2⟩
        · rintro ⟨⟨single, distinct⟩, _, apart⟩
          refine ⟨distinct, fun other later => ⟨fun held => ?_, (apart other later).2⟩⟩
          rcases List.mem_cons.mp held with rfl | old
          · exact single later
          · exact (apart other later).1 old

theorem conflict_none {tracker : Tracker} {claims : List Claim} :
    conflict? tracker.claimed [] claims = none ↔ (tracker.claimed ++ claims).Nodup := by
  rw [conflict_free, List.nodup_append]
  constructor
  · rintro ⟨single, apart⟩
    exact ⟨tracker.distinct, single, fun a old b new same => (apart b new).2 (same ▸ old)⟩
  · rintro ⟨_, single, apart⟩
    exact ⟨single, fun claim new => ⟨List.not_mem_nil, fun old => apart claim old claim new rfl⟩⟩

-- The claims are looked at before any of them is taken.
def take (tracker : Tracker) (set : ClaimSet) : Check Unit × Tracker :=
  match found : conflict? tracker.claimed [] set.claims with
  | some reason => (.error (.rejected reason), tracker)
  | none => (.ok (), ⟨tracker.claimed ++ set.claims, conflict_none.mp found⟩)

end Tracker
end SignedLedger

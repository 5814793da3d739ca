import SignedLedger.Proofs.Conflicts

-- A valid fact makes no claim twice, so the tracker can refuse it for one reason only:
-- a claim that somebody else holds.
namespace SignedLedger
open Check

theorem ClaimSet.place_perm (claim : Claim) (claims : List Claim) :
    (place claim claims).Perm (claim :: claims) := by
  induction claims with
  | nil => exact List.Perm.refl [claim]
  | cons other rest ih =>
    unfold place
    split
    · exact List.Perm.refl _
    · exact (List.Perm.cons other ih).trans (List.Perm.swap claim other rest)

theorem ClaimSet.ofList_perm (listed : List (ClaimType × String)) :
    (ofList listed).claims.Perm (listed.map fun claim => ⟨claim.1, claim.2⟩) := by
  have grown (set : ClaimSet) :
      (listed.foldl (fun set claim => set.insert claim.1 claim.2) set).claims.Perm
        (set.claims ++ listed.map fun claim => ⟨claim.1, claim.2⟩) := by
    induction listed generalizing set with
    | nil => exact List.Perm.of_eq (List.append_nil _).symm
    | cons claim rest ih =>
      apply (ih (set.insert claim.1 claim.2)).trans
      apply ((place_perm _ set.claims).append_right _).trans
      exact List.perm_middle.symm
  exact grown empty

theorem ClaimSet.ofList_nodup {listed : List (ClaimType × String)} (distinct : listed.Nodup) :
    (ofList listed).claims.Nodup := by
  apply (ofList_perm listed).nodup_iff.mpr
  apply distinct.map
  intro one other same
  exact Prod.ext (Claim.mk.inj same).1 (Claim.mk.inj same).2

theorem CreateContract.validate_distinct {f : CreateContract} {limits : Limits}
    (valid : f.validate limits = .ok ()) :
    f.openings.Pairwise fun one other => one.address ≠ other.address := by
  unfold validate at valid
  simp only [bind_ok] at valid
  obtain ⟨_, _, _, _, checked⟩ := valid
  exact (checkOpenings_distinct checked).2

theorem addresses_distinct {openings : List Opening}
    (distinct : openings.Pairwise fun one other => one.address ≠ other.address) :
    (openings.map Opening.address).Nodup :=
  List.pairwise_map.mpr distinct

theorem CreateAccount.claims_nodup {f : CreateAccount} {limits : Limits}
    (valid : f.validate limits = .ok ()) : f.claims.claims.Nodup := by
  apply ClaimSet.ofList_nodup
  apply List.nodup_cons.mpr
  constructor
  · intro again
    obtain ⟨_, _, same⟩ := List.mem_map.mp again
    cases (Prod.mk.inj same).1
  · apply (addresses_distinct (validate_distinct valid)).map
    intro one other same
    exact Address.ext (Prod.mk.inj same).2

theorem CreateContract.claims_nodup {f : CreateContract} {limits : Limits}
    (valid : f.validate limits = .ok ()) : f.claims.claims.Nodup := by
  apply ClaimSet.ofList_nodup
  apply List.nodup_cons.mpr
  constructor
  · intro again
    obtain ⟨_, _, pair⟩ := List.mem_flatMap.mp again
    simp at pair
  · apply List.nodup_flatMap.mpr
    constructor
    · simp
    · apply (addresses_distinct (validate_distinct valid)).imp
      intro one other apart claim first second
      have texts {a : Address}
          (made : claim ∈ [(ClaimType.newAccount, a.text), (ClaimType.contractAccount, a.text)]) :
          claim.2 = a.text := by
        simp only [List.mem_cons, List.not_mem_nil, or_false] at made
        rcases made with rfl | rfl
        · rfl
        · rfl
      exact apart (Address.ext ((texts first).symm.trans (texts second)))

theorem Fact.claims_nodup {fact : Fact} {limits : Limits} {set : ClaimSet}
    (builtIn : fact.kind?.isSome = true) (valid : fact.validate limits = .ok ())
    (made : fact.claims? = some set) : set.claims.Nodup := by
  cases fact with
  | createAccount f =>
    cases made
    exact CreateAccount.claims_nodup valid
  | createContract f =>
    cases made
    exact CreateContract.claims_nodup valid
  | candidate f => cases made
  | declared f => cases builtIn
  | _ =>
    cases made
    exact ClaimSet.ofList_nodup (List.nodup_singleton _)

def takenText (claim : Claim) : String := claim.text ++ " already used in this block"

def repeatedText (claim : Claim) : String := claim.text ++ " repeated within operation"

theorem Tracker.conflict_taken {claimed pending claims : List Claim} {reason : Reason}
    (distinct : claims.Nodup) (fresh : ∀ claim ∈ claims, claim ∉ pending)
    (found : conflict? claimed pending claims = some reason) :
    ∃ claim ∈ claims, claim ∈ claimed ∧ reason = ⟨.duplicated, takenText claim⟩ := by
  induction claims generalizing pending with
  | nil => cases found
  | cons claim rest ih =>
    obtain ⟨single, distinct⟩ := List.nodup_cons.mp distinct
    unfold conflict? at found
    rw [if_neg (fresh claim List.mem_cons_self)] at found
    split at found
    · rename_i taken
      cases found
      exact ⟨claim, List.mem_cons_self, taken, rfl⟩
    · have apart : ∀ other ∈ rest, other ∉ claim :: pending := by
        intro other later again
        rcases List.mem_cons.mp again with rfl | old
        · exact single later
        · exact fresh other (List.mem_cons_of_mem _ later) old
      obtain ⟨other, later, held⟩ := ih distinct apart found
      exact ⟨other, List.mem_cons_of_mem _ later, held⟩

theorem takenText_ne_repeatedText (claim other : Claim) : takenText claim ≠ repeatedText other := by
  intro same
  have last := congrArg (fun text : String => text.toList.getLast?) same
  have taken : " already used in this block".toList.getLast? = some 'k' := by decide
  have repeated : " repeated within operation".toList.getLast? = some 'n' := by decide
  simp only [takenText, repeatedText, String.toList_append, List.getLast?_append, taken, repeated,
    Option.some_or, Option.some.injEq] at last
  exact absurd last (by decide)

end SignedLedger

import SignedLedger.Text.Cut

-- Texts that are cut at marks can be put together again, and there is one way only to
-- cut them.
namespace SignedLedger.Text
variable {mark text before after : List Char}

structure LastCut (mark text before after : List Char) : Prop where
  parts : text = before ++ mark ++ after
  last : ∀ earlier later, text = earlier ++ mark ++ later → earlier.length ≤ before.length

theorem cutLast_none (marked : mark ≠ []) : cutLast? mark text = none ↔ ¬ mark <:+: text := by
  induction text with
  | nil => simp [cutLast?, marked]
  | cons c rest ih =>
    rw [cutLast?, List.infix_cons_iff, not_or, ← ih, ← List.isPrefixOf_iff_prefix]
    cases cutLast? mark rest with
    | some parts => simp
    | none => simp

theorem LastCut.cons (c : Char) (cut : LastCut mark text before after) :
    LastCut mark (c :: text) (c :: before) after := by
  refine ⟨by rw [cut.parts]; rfl, fun earlier later same => ?_⟩
  cases earlier with
  | nil => exact Nat.zero_le _
  | cons first earlier =>
    exact Nat.succ_le_succ (cut.last earlier later (List.cons.inj same).2)

theorem cutLast_parts (marked : mark ≠ []) (found : cutLast? mark text = some (before, after)) :
    LastCut mark text before after := by
  induction text generalizing before with
  | nil => cases found
  | cons c rest ih =>
    unfold cutLast? at found
    split at found
    · rename_i inner
      cases found
      exact (ih inner).cons c
    · rename_i missing
      split at found
      · rename_i front
        cases found
        refine ⟨(List.prefix_iff_eq_append.mp (List.isPrefixOf_iff_prefix.mp front)).symm, ?_⟩
        intro earlier later same
        cases earlier with
        | nil => exact Nat.le_refl _
        | cons first earlier =>
          have inside : mark <:+: rest := ⟨earlier, later, (List.cons.inj same).2.symm⟩
          exact absurd inside ((cutLast_none marked).mp missing)
      · cases found

theorem cutLast_exact (marked : mark ≠ []) :
    cutLast? mark text = some (before, after) ↔ LastCut mark text before after := by
  refine ⟨cutLast_parts marked, fun cut => ?_⟩
  cases found : cutLast? mark text with
  | none => exact absurd ⟨before, after, cut.parts.symm⟩ ((cutLast_none marked).mp found)
  | some parts =>
    obtain ⟨front, back⟩ := parts
    have other := cutLast_parts marked found
    have length : before.length = front.length :=
      Nat.le_antisymm (other.last before after cut.parts) (cut.last front back other.parts)
    obtain ⟨fronts, rfl⟩ := List.append_inj (cut.parts.symm.trans other.parts)
      (by rw [List.length_append, List.length_append, length])
    rw [(List.append_inj fronts length).1]

theorem lastCut_of_free {c : Char} (before front : List Char) (free : c ∉ after) :
    LastCut (front ++ [c]) (before ++ (front ++ [c]) ++ after) before after := by
  refine ⟨rfl, fun earlier later same => ?_⟩
  rcases List.append_eq_append_iff.mp same with ⟨between, whole, rest⟩ | ⟨between, whole, _⟩
  · -- The mark would end within what comes after.
    rcases List.eq_nil_or_concat between with rfl | ⟨most, d, rfl⟩
    · have length := congrArg List.length whole
      simp only [List.length_append, List.append_nil] at length
      omega
    · rw [List.concat_eq_append, ← List.append_assoc, ← List.append_assoc] at whole
      obtain ⟨_, ends⟩ := List.append_inj' whole rfl
      cases ends
      exact absurd (by simp [rest]) free
  · have length := congrArg List.length whole
    simp only [List.length_append] at length
    omega

theorem cutLast_append {mark : Char} (before : List Char) {after : List Char}
    (missing : mark ∉ after) : cutLast? [mark] (before ++ mark :: after) = some (before, after) := by
  rw [cutLast_exact (List.cons_ne_nil mark []), List.append_cons before mark after]
  exact lastCut_of_free before [] missing

theorem cut_unique {mark : Char} {one other rest rest' : List Char} (free : mark ∉ one)
    (free' : mark ∉ other) (same : one ++ mark :: rest = other ++ mark :: rest') :
    one = other ∧ rest = rest' := by
  induction one generalizing other with
  | nil =>
    cases other with
    | nil => exact ⟨rfl, (List.cons.inj same).2⟩
    | cons c more => exact absurd (List.cons.inj same).1 (List.ne_of_not_mem_cons free')
  | cons c more ih =>
    cases other with
    | nil => exact absurd (List.cons.inj same).1.symm (List.ne_of_not_mem_cons free)
    | cons c' more' =>
      obtain ⟨head, tail⟩ := List.cons.inj same
      obtain ⟨rfl, later⟩ := ih (List.not_mem_of_not_mem_cons free)
        (List.not_mem_of_not_mem_cons free') tail
      exact ⟨by rw [head], later⟩

theorem dropEnding_exact {ending body : List Char} :
    dropEnding? ending text = some body ↔ text = body ++ ending := by
  unfold dropEnding?
  rw [Option.ite_none_right_eq_some, List.isSuffixOf_iff_suffix, Option.some.injEq]
  constructor
  · intro ⟨ends, kept⟩
    subst kept
    exact (List.suffix_iff_eq_append.mp ends).symm
  · intro same
    subst same
    exact ⟨List.suffix_append body ending, by simp⟩

theorem pieces_eq_splitOn (mark : Char) (text : List Char) :
    pieces mark text = text.splitOn mark := by
  induction text with
  | nil => rfl
  | cons c rest ih =>
    simp only [pieces, ih, List.splitOn_eq_splitOnP, List.splitOnP_cons_eq_if_modifyHead, beq_iff_eq]
    cases held : rest.splitOnP (· == mark) with
    | nil => exact absurd held (List.splitOnP_ne_nil _ _)
    | cons first others => rfl

end SignedLedger.Text

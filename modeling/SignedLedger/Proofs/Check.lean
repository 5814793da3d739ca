import SignedLedger.State.Lookup

-- What a sequence of checks has established when it succeeds. The statements are
-- equivalences, so that a whole stage opens into the facts of its steps.
namespace SignedLedger.Check

deriving instance DecidableEq for Except

variable {ε α β : Type}

@[simp] theorem bind_ok {x : Except ε α} {f : α → Except ε β} {b : β} :
    (x >>= f) = .ok b ↔ ∃ a, x = .ok a ∧ f a = .ok b := by
  cases x with
  | error failure => simp [bind, Except.bind]
  | ok a => simp [bind, Except.bind]

theorem bind_error {x : Except ε α} {f : α → Except ε β} {failure : ε} :
    (x >>= f) = .error failure ↔
      x = .error failure ∨ ∃ a, x = .ok a ∧ f a = .error failure := by
  cases x with
  | error other => simp [bind, Except.bind]
  | ok a => simp [bind, Except.bind]

@[simp] theorem pure_ok {a b : α} : (pure a : Except ε α) = .ok b ↔ a = b := by
  simp [pure, Except.pure]

@[simp] theorem throw_ok {failure : ε} {a : α} : ¬ (throw failure : Except ε α) = .ok a := by
  simp [throw, throwThe, MonadExceptOf.throw]

@[simp] theorem lift_ok {x : Except Fault α} {a : α} : (liftM x : Check α) = .ok a ↔ x = .ok a := by
  cases x with
  | error fault => simp [liftM, monadLift, MonadLift.monadLift, ofExcept]
  | ok b => simp [liftM, monadLift, MonadLift.monadLift, ofExcept]

theorem lift_bind_congr {x : Except Fault α} {f g : α → Check β}
    (same : ∀ a, x = .ok a → f a = g a) : (liftM x >>= f) = (liftM x >>= g) := by
  cases x with
  | error fault => rfl
  | ok a => exact same a rfl

@[simp] theorem reject_ok {kind : ReasonKind} {message : String} {a : α} :
    ¬ (reject kind message : Check α) = .ok a := by
  simp [reject]

@[simp] theorem fail_ok {fault : Fault} {a : α} : ¬ (fail fault : Check α) = .ok a := by
  simp [fail]

@[simp] theorem require_ok {holds : Bool} {kind : ReasonKind} {message : String} {u : Unit} :
    require holds kind message = .ok u ↔ holds = true := by
  cases holds with
  | false => simp [require]
  | true => simp [require]

theorem forM_ok {f : α → Except ε Unit} {items : List α} :
    items.forM f = .ok () ↔ ∀ item ∈ items, f item = .ok () := by
  induction items with
  | nil => simp
  | cons item rest ih =>
    rw [List.forM_eq_forM] at ih ⊢
    rw [List.forM_cons, bind_ok, List.forall_mem_cons, ← ih]
    constructor
    · rintro ⟨_, first, others⟩
      exact ⟨first, others⟩
    · rintro ⟨first, others⟩
      exact ⟨(), first, others⟩

theorem optionForM_ok {f : α → Except ε Unit} {found : Option α} :
    found.forM f = .ok () ↔ ∀ item, found = some item → f item = .ok () := by
  cases found with
  | none => simp [Option.forM]
  | some item => simp [Option.forM]

theorem foldlM_error {f : β → α → Except ε β} {items : List α} {start : β} {failure : ε}
    (failed : items.foldlM f start = .error failure) :
    ∃ before item after reached, items = before ++ item :: after ∧
      before.foldlM f start = .ok reached ∧ f reached item = .error failure := by
  induction items generalizing start with
  | nil => cases failed
  | cons item rest ih =>
    rw [List.foldlM_cons, bind_error] at failed
    rcases failed with now | ⟨next, taken, later⟩
    · exact ⟨[], item, rest, start, rfl, rfl, now⟩
    · obtain ⟨before, other, after, reached, rfl, folded, found⟩ := ih later
      refine ⟨item :: before, other, after, reached, rfl, ?_, found⟩
      rw [List.foldlM_cons, taken]
      exact folded

theorem mapM_mem {f : α → Except ε β} {items : List α} {results : List β}
    (done : items.mapM f = .ok results) :
    (∀ item ∈ items, ∃ result ∈ results, f item = .ok result) ∧
      ∀ result ∈ results, ∃ item ∈ items, f item = .ok result := by
  induction items generalizing results with
  | nil =>
    cases done
    exact ⟨by simp, by simp⟩
  | cons item rest ih =>
    rw [List.mapM_cons] at done
    simp only [bind_ok, pure_ok] at done
    obtain ⟨result, first, others, later, rfl⟩ := done
    obtain ⟨there, back⟩ := ih later
    refine ⟨fun one member => ?_, fun one member => ?_⟩
    · rcases List.mem_cons.mp member with rfl | within
      · exact ⟨result, List.mem_cons_self, first⟩
      · obtain ⟨found, inside, same⟩ := there one within
        exact ⟨found, List.mem_cons_of_mem _ inside, same⟩
    · rcases List.mem_cons.mp member with rfl | within
      · exact ⟨item, List.mem_cons_self, first⟩
      · obtain ⟨found, inside, same⟩ := back one within
        exact ⟨found, List.mem_cons_of_mem _ inside, same⟩

theorem mapM_map {γ : Type} {f : α → Except ε β} {items : List α} {results : List β}
    {g : β → γ} {h : α → γ} (same : ∀ item ∈ items, ∀ result, f item = .ok result → g result = h item)
    (done : items.mapM f = .ok results) : results.map g = items.map h := by
  induction items generalizing results with
  | nil =>
    cases done
    rfl
  | cons item rest ih =>
    rw [List.mapM_cons] at done
    simp only [bind_ok, pure_ok] at done
    obtain ⟨result, first, others, later, rfl⟩ := done
    rw [List.map_cons, List.map_cons, same item List.mem_cons_self result first,
      ih (fun other member => same other (List.mem_cons_of_mem _ member)) later]

theorem mapM_error {f : α → Except ε β} {items : List α} {failure : ε}
    (failed : items.mapM f = .error failure) : ∃ item ∈ items, f item = .error failure := by
  induction items with
  | nil => cases failed
  | cons item rest ih =>
    rw [List.mapM_cons, bind_error] at failed
    rcases failed with now | ⟨result, _, later⟩
    · exact ⟨item, List.mem_cons_self, now⟩
    · rcases bind_error.mp later with inner | ⟨_, _, none⟩
      · obtain ⟨other, member, found⟩ := ih inner
        exact ⟨other, List.mem_cons_of_mem _ member, found⟩
      · cases none

theorem mapM_succeeds {f : α → Except ε β} {items : List α} :
    (∃ results, items.mapM f = .ok results) ↔ ∀ item ∈ items, ∃ result, f item = .ok result := by
  constructor
  · rintro ⟨results, done⟩ item member
    obtain ⟨result, _, same⟩ := (mapM_mem done).1 item member
    exact ⟨result, same⟩
  · intro each
    cases done : items.mapM f with
    | ok results => exact ⟨results, rfl⟩
    | error failure =>
      obtain ⟨item, member, failed⟩ := mapM_error done
      obtain ⟨result, same⟩ := each item member
      rw [failed] at same
      cases same

@[simp] theorem existing_ok {found : Except Fault (Option α)} {missing : String} {a : α} :
    Lookup.existing found missing = .ok a ↔ found = .ok (some a) := by
  unfold Lookup.existing
  simp only [bind_ok, lift_ok]
  constructor
  · rintro ⟨read, same, taken⟩
    cases read with
    | none => simp at taken
    | some b =>
      simp only [pure_ok] at taken
      rw [same, taken]
  · intro same
    exact ⟨some a, same, rfl⟩

end SignedLedger.Check

import Mathlib.Algebra.Order.BigOperators.Group.List
import SignedLedger.Proofs.Decimal.Sum

namespace SignedLedger.Decimal

inductive SumsTo : Decimal → List Int → Decimal → Prop where
  | nil (a : Decimal) : SumsTo a [] a
  | cons {a next b : Decimal} {change : Int} {changes : List Int}
      (rounded : Rounds (a.units + change) next.units) (rest : SumsTo next changes b) :
      SumsTo a (change :: changes) b

namespace SumsTo
variable {a a' b b' c : Decimal} {changes more : List Int}

theorem of_foldlM {α : Type} {step : Decimal → α → Option Decimal} {size : α → Int}
    (rounds : ∀ a item next, step a item = some next → Rounds (a.units + size item) next.units)
    {items : List α} (summed : items.foldlM step a = some b) : SumsTo a (items.map size) b := by
  induction items generalizing a with
  | nil =>
    cases summed
    exact .nil _
  | cons item rest ih =>
    rw [List.foldlM_cons, Option.bind_eq_bind, Option.bind_eq_some_iff] at summed
    obtain ⟨next, stepped, later⟩ := summed
    exact .cons (rounds a item next stepped) (ih later)

theorem split (whole : SumsTo a (changes ++ more) c) :
    ∃ b, SumsTo a changes b ∧ SumsTo b more c := by
  induction changes generalizing a with
  | nil => exact ⟨a, .nil a, whole⟩
  | cons change rest ih =>
    cases whole with
    | cons rounded rest =>
      obtain ⟨b, first, second⟩ := ih rest
      exact ⟨b, .cons rounded first, second⟩

theorem mono (sum : SumsTo a changes b) (sum' : SumsTo a' changes b')
    (le : a.units ≤ a'.units) : b.units ≤ b'.units := by
  induction sum generalizing a' with
  | nil =>
    cases sum'
    exact le
  | cons rounded _ ih =>
    cases sum' with
    | cons rounded' rest' => exact ih rest' (rounded.mono rounded' (by omega))

theorem le_of_nonneg (sum : SumsTo a changes b) (nonneg : ∀ change ∈ changes, 0 ≤ change) :
    a.units ≤ b.units := by
  induction sum with
  | nil => exact Int.le_refl _
  | @cons a next b change changes rounded _ ih =>
    have grown : a.units ≤ next.units := by
      have := nonneg change List.mem_cons_self
      exact (rounds_self a).mono rounded (by omega)
    exact grown.trans (ih fun other member => nonneg other (List.mem_cons_of_mem _ member))

theorem le_within {before after : List Int} (sum : SumsTo a changes b)
    (whole : SumsTo a (before ++ changes ++ after) b')
    (credits : ∀ change ∈ before ++ after, 0 ≤ change) : b.units ≤ b'.units := by
  obtain ⟨last, front, ending⟩ := whole.split
  obtain ⟨first, opening, middle⟩ := front.split
  have start := opening.le_of_nonneg fun change member => credits change (by simp [member])
  have finish := ending.le_of_nonneg fun change member => credits change (by simp [member])
  exact (sum.mono middle start).trans finish

end SumsTo

def accumulated {α : Type} (step : Decimal → α → Option Decimal) (change : α → ℚ) :
    Decimal → List α → ℚ
  | _, [] => 0
  | a, item :: rest =>
    match step a item with
    | none => 0
    | some next => (next.value - (a.value + change item)) + accumulated step change next rest

theorem foldlM_accumulated {α : Type} {step : Decimal → α → Option Decimal} (change : α → ℚ)
    {items : List α} {a b : Decimal} (summed : items.foldlM step a = some b) :
    b.value = a.value + (items.map change).sum + accumulated step change a items := by
  induction items generalizing a with
  | nil =>
    cases summed
    simp [accumulated]
  | cons item rest ih =>
    rw [List.foldlM_cons, Option.bind_eq_bind, Option.bind_eq_some_iff] at summed
    obtain ⟨next, stepped, later⟩ := summed
    rw [ih later, accumulated, stepped, List.map_cons, List.sum_cons]
    ring

-- Numbers that add up without rounding: at most s fraction digits each, and all
-- together below the bound at s fraction digits.
def Fits (s : Nat) (numbers : List Decimal) : Prop :=
  (∀ a ∈ numbers, a.scale ≤ s) ∧
    (numbers.map fun a => a.units.natAbs).sum < coeffBound * tenTo (maxScale - s)

instance (s : Nat) (numbers : List Decimal) : Decidable (Fits s numbers) :=
  inferInstanceAs (Decidable ((∀ a ∈ numbers, a.scale ≤ s) ∧
    (numbers.map fun a => a.units.natAbs).sum < coeffBound * tenTo (maxScale - s)))

theorem Fits.sublist {s : Nat} {numbers fewer : List Decimal} (fits : Fits s numbers)
    (within : fewer.Sublist numbers) : Fits s fewer :=
  ⟨fun a member => fits.1 a (within.subset member),
    Nat.lt_of_le_of_lt ((within.map _).sum_le_sum fun _ _ => Nat.zero_le _) fits.2⟩

theorem units_whole {a : Decimal} {s : Nat} (scaled : a.scale ≤ s) :
    (tenTo (maxScale - s) : Int) ∣ a.units := by
  have places : tenTo (maxScale - s) ∣ tenTo (maxScale - a.scale) := tenTo_dvd (by omega)
  exact (Int.natCast_dvd_natCast.mpr places).trans a.units_dvd

-- Without rounding every partial sum is exact, and so is the last one.
theorem accumulated_exact {α : Type} {step : Decimal → α → Option Decimal} {change : α → ℚ}
    {size : α → Int} {s : Nat}
    (rounds : ∀ a item next, step a item = some next → Rounds (a.units + size item) next.units)
    (scaled : ∀ item, change item = size item / tenTo maxScale) {items : List α} {a : Decimal}
    (start : (tenTo (maxScale - s) : Int) ∣ a.units)
    (whole : ∀ item ∈ items, (tenTo (maxScale - s) : Int) ∣ size item)
    (room : a.units.natAbs + (items.map fun item => (size item).natAbs).sum <
      coeffBound * tenTo (maxScale - s)) :
    accumulated step change a items = 0 ∧
      ∀ b, items.foldlM step a = some b → b.units = a.units + (items.map size).sum := by
  induction items generalizing a with
  | nil => exact ⟨rfl, fun b same => by cases same; simp⟩
  | cons item rest ih =>
    rw [List.map_cons, List.sum_cons] at room
    rw [accumulated]
    cases stepped : step a item with
    | none => exact ⟨rfl, fun b summed => by simp [stepped] at summed⟩
    | some next =>
      have divides := Int.dvd_add start (whole item List.mem_cons_self)
      have smaller := Int.natAbs_add_le a.units (size item)
      have here : next.units = a.units + size item :=
        (rounds a item next stepped).exact divides (by omega)
      obtain ⟨none, total⟩ := ih (here ▸ divides)
        (fun other member => whole other (List.mem_cons_of_mem _ member)) (by rw [here]; omega)
      refine ⟨?_, fun b summed => ?_⟩
      · dsimp only
        rw [none, value_eq_units, value_eq_units, here, scaled]
        push_cast
        ring
      · rw [List.foldlM_cons, stepped] at summed
        rw [total b summed, here, List.map_cons, List.sum_cons]
        ring

end SignedLedger.Decimal

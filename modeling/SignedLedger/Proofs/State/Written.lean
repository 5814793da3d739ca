import SignedLedger.Proofs.State.Store

-- Values that are set. The merger of a key keeps the first of them and takes no other
-- that does not agree with it; so a written block holds under the key a value that
-- agrees with all that were set.
namespace SignedLedger
open Check

namespace StateValue

theorem agrees_refl (value : StateValue) : value.agrees value = true := by
  have rule (r : FeeRule) : r.agrees r = true := by
    cases r <;> simp [FeeRule.agrees, Decimal.Same.refl]
  have money (a : Amount) : a.agrees a = true := by
    simp [Amount.agrees, Decimal.Same.refl]
  cases value with
  | balance a => exact money a
  | addBalance a => exact money a
  | deductBalance a => exact money a
  | currencyDesign d =>
    obtain ⟨_, _, _, minimum, fee, itemFee⟩ := d
    cases itemFee <;>
      simp [agrees, CurrencyDesign.agrees, CurrencyPolicy.agrees, rule, Decimal.Same.refl]
  | _ => simp [agrees]

theorem amount_agrees {a b c : Amount} (first : a.agrees b = true) (second : a.agrees c = true) :
    b.agrees c = true := by
  simp only [Amount.agrees, Bool.and_eq_true, decide_eq_true_eq, Decimal.same_iff_units]
    at first second ⊢
  exact ⟨first.1.symm.trans second.1, first.2.symm.trans second.2⟩

theorem fee_agrees {a b c : FeeRule} (first : a.agrees b = true) (second : a.agrees c = true) :
    b.agrees c = true := by
  cases a with
  | free =>
    cases b with
    | free => exact second
    | _ => cases first
  | fixed r x =>
    cases b with
    | fixed r' x' =>
      cases c with
      | fixed r'' x'' =>
        simp only [FeeRule.agrees, Bool.and_eq_true, decide_eq_true_eq, Decimal.same_iff_units]
          at first second ⊢
        exact ⟨first.1.symm.trans second.1, first.2.symm.trans second.2⟩
      | _ => cases second
    | _ => cases first
  | proportional r q lo hi =>
    cases b with
    | proportional r' q' lo' hi' =>
      cases c with
      | proportional r'' q'' lo'' hi'' =>
        simp only [FeeRule.agrees, Bool.and_eq_true, decide_eq_true_eq, Decimal.same_iff_units]
          at first second ⊢
        obtain ⟨⟨⟨receiver, ratio⟩, minimum⟩, maximum⟩ := first
        obtain ⟨⟨⟨receiver', ratio'⟩, minimum'⟩, maximum'⟩ := second
        exact ⟨⟨⟨receiver.symm.trans receiver', ratio.symm.trans ratio'⟩,
          minimum.symm.trans minimum'⟩, maximum.symm.trans maximum'⟩
      | _ => cases second
    | _ => cases first

theorem design_agrees {a b c : CurrencyDesign} (first : a.agrees b = true)
    (second : a.agrees c = true) : b.agrees c = true := by
  obtain ⟨_, _, _, _, fee, itemFee⟩ := a
  obtain ⟨_, _, _, _, fee', itemFee'⟩ := b
  obtain ⟨_, _, _, _, fee'', itemFee''⟩ := c
  simp only [CurrencyDesign.agrees, CurrencyPolicy.agrees, Bool.and_eq_true, decide_eq_true_eq,
    Decimal.same_iff_units] at first second ⊢
  obtain ⟨⟨⟨currency, genesis⟩, supply⟩, ⟨minimum, fees⟩, items⟩ := first
  obtain ⟨⟨⟨currency', genesis'⟩, supply'⟩, ⟨minimum', fees'⟩, items'⟩ := second
  refine ⟨⟨⟨currency.symm.trans currency', genesis.symm.trans genesis'⟩,
    supply.symm.trans supply'⟩, ⟨minimum.symm.trans minimum', fee_agrees fees fees'⟩, ?_⟩
  cases itemFee with
  | none =>
    cases itemFee' with
    | none => exact items'
    | some _ => cases items
  | some _ =>
    cases itemFee' with
    | none => cases items
    | some _ =>
      cases itemFee'' with
      | none => cases items'
      | some _ => exact fee_agrees items items'

theorem agrees_common {a b c : StateValue} (first : a.agrees b = true) (second : a.agrees c = true) :
    b.agrees c = true := by
  unfold agrees at first
  split at first
  · cases c with
    | balance _ => exact amount_agrees first second
    | _ => simp [agrees] at second
  · cases c with
    | addBalance _ => exact amount_agrees first second
    | _ => simp [agrees] at second
  · cases c with
    | deductBalance _ => exact amount_agrees first second
    | _ => simp [agrees] at second
  · cases c with
    | currencyDesign _ => exact design_agrees first second
    | _ => simp [agrees] at second
  · rw [← of_decide_eq_true first]
    exact second

def Plain : StateValue → Prop
  | .balance _ | .addBalance _ | .deductBalance _ | .currencyDesign _ => False
  | _ => True

theorem Plain.eq_of_agrees {value other : StateValue} (plain : value.Plain)
    (agreed : other.agrees value = true) : other = value := by
  unfold agrees at agreed
  split at agreed
  · exact plain.elim
  · exact plain.elim
  · exact plain.elim
  · exact plain.elim
  · exact of_decide_eq_true agreed

end StateValue

namespace Merger
variable {reader : Reader} {height : Height} {key : String} {m : Merger}
  {touch : Digest × MergeValue}

def held? (m : Merger) : Option StateValue :=
  match m.state with
  | .set merger => merger.value
  | .balance _ => none

theorem mergeSet_agrees {merger next : SetMerger} {value : StateValue}
    (merged : mergeSet key merger value = .ok next) :
    ∃ kept, next.value = some kept ∧ kept.agrees value = true ∧
      ∀ earlier, merger.value = some earlier → kept = earlier := by
  unfold mergeSet at merged
  split at merged
  · rename_i fresh
    cases merged
    exact ⟨value, rfl, value.agrees_refl, by simp [fresh]⟩
  · rename_i current held
    split at merged
    · rename_i agreed
      cases merged
      exact ⟨current, held, agreed, fun earlier same => by simpa [held] using same⟩
    · cases merged

theorem mergeStep_held {entry : Option Merger} (set : touch.2.kind = .set)
    (stepped : mergeStep height reader entry touch = .ok m) :
    ∃ kept, m.held? = some kept ∧ kept.agrees touch.2.value = true ∧
      ∀ earlier, entry.bind held? = some earlier → kept = earlier := by
  unfold mergeStep at stepped
  simp only [bind_ok] at stepped
  obtain ⟨opened, found, stepped⟩ := stepped
  have before : ∀ earlier, entry.bind held? = some earlier → opened.held? = some earlier := by
    intro earlier same
    cases entry with
    | none => cases same
    | some old =>
      cases found
      exact same
  split at stepped
  · rename_i kinds
    obtain ⟨_, _, state, _⟩ := opened
    cases state with
    | balance merger =>
      rw [set] at kinds
      cases kinds
    | set merger =>
      unfold merge at stepped
      simp only [mergeState, bind_ok, pure_ok] at stepped
      obtain ⟨_, ⟨next, merged, rfl⟩, rfl⟩ := stepped
      obtain ⟨kept, held, agreed, first⟩ := mergeSet_agrees merged
      exact ⟨kept, held, agreed, fun earlier same => first earlier (before earlier same)⟩
  · simp at stepped

theorem entry_held {touches : List (Digest × MergeValue)} {entry result : Option Merger}
    (sets : ∀ touch ∈ touches, touch.2.kind = .set)
    (merged : touches.foldlM (Table.changeEntry (mergeStep height reader)) entry = .ok result) :
    (∀ earlier, entry.bind held? = some earlier → result.bind held? = some earlier) ∧
      ∀ touch ∈ touches, ∃ kept, result.bind held? = some kept ∧
        kept.agrees touch.2.value = true := by
  induction touches generalizing entry with
  | nil =>
    cases merged
    exact ⟨fun _ same => same, by simp⟩
  | cons touch rest ih =>
    rw [List.foldlM_cons, bind_ok] at merged
    obtain ⟨next, stepped, later⟩ := merged
    unfold Table.changeEntry at stepped
    simp only [bind_ok, pure_ok] at stepped
    obtain ⟨following, stepped, rfl⟩ := stepped
    obtain ⟨kept, held, agreed, first⟩ := mergeStep_held (sets touch List.mem_cons_self) stepped
    obtain ⟨stays, others⟩ := ih (fun other member => sets other (List.mem_cons_of_mem _ member)) later
    refine ⟨fun earlier same => ?_, fun other member => ?_⟩
    · rw [← first earlier same]
      exact stays kept held
    · rcases List.mem_cons.mp member with rfl | within
      · exact ⟨kept, stays kept held, agreed⟩
      · exact others other within

theorem close_held {state : State} {value : StateValue} (held : m.held? = some value)
    (closed : m.close = .ok state) : state.value = value := by
  obtain ⟨_, _, _, closing⟩ := close_ok closed
  obtain ⟨_, _, inner, _⟩ := m
  cases inner with
  | balance merger => cases held
  | set merger =>
    obtain ⟨stored⟩ := merger
    cases held
    exact (Except.ok.inj closing).symm

end Merger

section Block
variable {height : Height} {reader : Reader} {batches : List Batch} {states : List State}
  {key : String}

theorem mem_valuesAt {value : MergeValue} :
    value ∈ valuesAt key batches ↔ value ∈ batches.flatMap Prod.snd ∧ value.key = key := by
  simp [valuesAt]

theorem MergeValue.set_of_kind {value : MergeValue} (set : value.kind = .set) :
    value = .set value.key value.value := by
  cases value with
  | set _ _ => rfl
  | credit _ _ => cases set
  | debit _ _ => cases set

theorem applyMerges_set (written : applyMerges height batches reader = .ok states) (store : Store)
    {value : StateValue} (set : .set key value ∈ batches.flatMap Prod.snd) :
    ∃ state, (store.extend states).find? key = some state ∧ state.value.agrees value = true := by
  obtain ⟨entry, folded, after, ending⟩ := applyMerges_entry written store key
  have member : .set key value ∈ valuesAt key batches := mem_valuesAt.mpr ⟨set, rfl⟩
  obtain ⟨rfl, _⟩ | ⟨m, state, rfl, closed, found⟩ := ending
  · rw [show valuesAt key batches = [] from after] at member
    cases member
  have sets : ∀ other ∈ valuesAt key batches, other.kind = .set := by
    cases after.2 with
    | set _ kinds _ => exact kinds
    | balance _ kinds _ => cases kinds _ member
  rw [← touches_at] at sets member
  obtain ⟨touch, touched, same⟩ := List.mem_map.mp member
  obtain ⟨kept, held, agreed⟩ := (Merger.entry_held
    (fun touch inside => sets _ (List.mem_map_of_mem inside)) folded).2 touch touched
  rw [same] at agreed
  exact ⟨state, found, Merger.close_held held closed ▸ agreed⟩

theorem applyMerges_origin (written : applyMerges height batches reader = .ok states)
    (store : Store) (key : String) :
    (store.extend states).find? key = store.find? key ∨ ∃ state,
      (store.extend states).find? key = some state ∧
        (.set key state.value ∈ batches.flatMap Prod.snd ∨ ∃ owner currency total,
          StateKey.readBalance? key = some (owner, currency) ∧ total.isNegative = false ∧
            state.value = .balance ⟨currency, total⟩) := by
  rcases applyMerges_find written store key with
    ⟨_, same⟩ | ⟨m, state, touched, after, closed, found⟩
  · exact .inl same
  refine .inr ⟨state, found, ?_⟩
  obtain ⟨_, _, _, closing⟩ := Merger.close_ok closed
  cases after with
  | balance _ _ sums =>
    obtain ⟨owner, named⟩ := sums.currency
    obtain ⟨total, _, nonneg, value⟩ := Merger.closeBalance_ok closing
    exact .inr ⟨owner, _, total, named, nonneg, value⟩
  | @set _ merger kinds first =>
    obtain ⟨head, rest, values⟩ := List.exists_cons_of_ne_nil touched
    have member : head ∈ valuesAt key batches := by
      rw [values]
      exact List.mem_cons_self
    rw [values] at first
    have value := Merger.close_held (m := ⟨key, height, .set merger, _⟩) first closed
    obtain ⟨inside, same⟩ := mem_valuesAt.mp member
    rw [MergeValue.set_of_kind (kinds head member), same, ← value] at inside
    exact .inl inside

end Block
end SignedLedger

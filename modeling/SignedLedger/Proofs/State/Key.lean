import SignedLedger.Proofs.Text.Cut
import SignedLedger.State.Key

-- What can be read off a key. A balance key tells its account and its currency, and
-- no key of another family passes for one.
namespace SignedLedger

theorem Address.ofString_ok {text : String} {a : Address} :
    Address.ofString text = .ok a ↔ text = a.text := by
  constructor
  · intro read
    unfold Address.ofString at read
    split at read
    · split at read
      · cases read
        rfl
      · cases read
    · cases read
  · intro same
    rw [same, Address.ofString_text]

theorem Currency.ofString_ok {text : String} {c : Currency} :
    Currency.ofString text = .ok c ↔ text = c.text := by
  constructor
  · intro read
    unfold Currency.ofString at read
    split at read
    · split at read
      · cases read
        rfl
      · cases read
    · cases read
  · intro same
    rw [same, Currency.ofString_text]

theorem Currency.dash_not_mem (c : Currency) : '-' ∉ c.text.toList := by
  intro member
  have plain := List.all_eq_true.mp c.plain '-' member
  exact absurd plain (by decide)

namespace StateKey

theorem balance_toList (a : Address) (c : Currency) :
    (balance a c).toList = (a.text.toList ++ '-' :: c.text.toList) ++ balanceEnding := by
  have dash : "-".toList = ['-'] := by decide
  rw [balance, String.toList_append, String.toList_append, String.toList_append, dash,
    List.append_assoc a.text.toList]
  rfl

theorem readBalance_balance (a : Address) (c : Currency) :
    readBalance? (balance a c) = some (a, c) := by
  unfold readBalance?
  rw [balance_toList, Text.dropEnding_exact.mpr rfl]
  dsimp only
  rw [Text.cutLast_append _ c.dash_not_mem]
  simp only [String.ofList_toList, Address.ofString_text, Currency.ofString_text]

-- No other text is read as the balance key of an account and a currency.
theorem readBalance_canonical {key : String} {a : Address} {c : Currency}
    (read : readBalance? key = some (a, c)) : key = balance a c := by
  unfold readBalance? at read
  split at read
  · cases read
  · rename_i body ends
    split at read
    · cases read
    · rename_i before after cut
      split at read
      · rename_i a' c' address currency
        cases read
        have front := congrArg String.toList (Address.ofString_ok.mp address)
        have back := congrArg String.toList (Currency.ofString_ok.mp currency)
        rw [String.toList_ofList] at front back
        have parts := (Text.cutLast_parts (by decide) cut).parts
        refine String.toList_injective ?_
        calc key.toList = (before ++ ['-'] ++ after) ++ balanceEnding := by
              rw [Text.dropEnding_exact.mp ends, parts]
          _ = (balance a c).toList := by
              rw [front, back, balance_toList, List.append_assoc a.text.toList, List.singleton_append]
      · cases read

theorem isBalance_balance (a : Address) (c : Currency) : isBalance (balance a c) = true := by
  unfold isBalance
  rw [balance_toList]
  exact List.isSuffixOf_iff_suffix.mpr (List.suffix_append _ _)

theorem isBalance_ending {text ending : String}
    (shorter : ¬ balanceEnding <:+ ending.toList) (longer : ¬ ending.toList <:+ balanceEnding) :
    isBalance (text ++ ending) = false := by
  rw [← Bool.not_eq_true]
  intro balanced
  have suffix := List.isSuffixOf_iff_suffix.mp balanced
  rw [String.toList_append] at suffix
  rcases List.suffix_or_suffix_of_suffix suffix (List.suffix_append _ _) with inside | around
  · exact shorter inside
  · exact longer around

theorem isBalance_account (a : Address) : isBalance (account a) = false :=
  isBalance_ending (by decide) (by decide)

theorem isBalance_contractAccount (a : Address) : isBalance (contractAccount a) = false :=
  isBalance_ending (by decide) (by decide)

theorem isBalance_didDesign (contract : Address) : isBalance (didDesign contract) = false :=
  isBalance_ending (by decide) (by decide)

theorem isBalance_didData (contract a : Address) : isBalance (didData contract a) = false :=
  isBalance_ending (by decide) (by decide)

theorem isBalance_didDocument (contract : Address) (did : String) :
    isBalance (didDocument contract did) = false :=
  isBalance_ending (by decide) (by decide)

theorem isBalance_of_read {key : String} {owner : Address × Currency}
    (read : readBalance? key = some owner) : isBalance key = true := by
  unfold readBalance? at read
  split at read
  · cases read
  · rename_i body cut
    unfold Text.dropEnding? at cut
    split at cut
    · rename_i ends
      exact ends
    · cases cut

end StateKey
end SignedLedger

import SignedLedger.Proofs.State.Slot

-- Keys name one place each. The families and their owners can be told from the key alone,
-- whatever the identifier in a document key looks like, and a balance key is read back to
-- its account and its currency.
namespace SignedLedger

theorem Slot.isBalance_iff (slot : Slot) :
    StateKey.isBalance slot.key = true ↔ ∃ a c, slot = .balance a c := by
  rw [isBalance_key, decide_eq_true_eq]
  cases slot with
  | balance a c => simp [kind]
  | _ => simp [kind]

-- No two places share a key, only balance keys pass for balance keys, and a text is read as
-- the balance key of an account and a currency exactly when it is their key.
theorem stateKeys_exact :
    (∀ one other : Slot, one.key = other.key ↔ one = other) ∧
      (∀ slot : Slot, StateKey.isBalance slot.key = true ↔ ∃ a c, slot = .balance a c) ∧
      ∀ key a c, StateKey.readBalance? key = some (a, c) ↔ key = StateKey.balance a c := by
  refine ⟨fun one other => ?_, Slot.isBalance_iff, fun key a c => ?_⟩
  · constructor
    · exact Slot.key_injective
    · exact congrArg Slot.key
  · constructor
    · exact StateKey.readBalance_canonical
    · intro same
      rw [same, StateKey.readBalance_balance]

end SignedLedger

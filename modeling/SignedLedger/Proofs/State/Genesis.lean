import SignedLedger.Proofs.State.Slot
import SignedLedger.Proofs.State.Store
import SignedLedger.State.Genesis

-- What a ledger holds at its start: under each slot one of the values that its entries
-- put there.
namespace SignedLedger

namespace GenesisEntry

def slots : GenesisEntry → List (Slot × StateValue)
  | .account a => [(.account a.address, .account a)]
  | .balance a amount => [(.balance a amount.currency, .balance amount)]
  | .currency design => [(.currencyDesign design.currency, .currencyDesign design)]
  | .contract address status =>
    [(.account address, .account (Account.keyless address)),
      (.contractAccount address, .contractAccount status)]
  | .didDesign registry design => [(.didDesign registry, .didDesign design)]
  | .did registry data document =>
    [(.didData registry data.address, .didData data),
      (.didDocument registry document.did, .didDocument document)]
  | .suffrageCandidates candidates => [(.suffrageCandidates, .suffrageCandidates candidates)]

theorem writes_eq (entry : GenesisEntry) :
    entry.writes = entry.slots.map fun placed => (placed.1.key, placed.2) := by
  cases entry <;> rfl

end GenesisEntry

namespace Store

def genesis (height : Height) (entries : List GenesisEntry) : Store :=
  Store.empty.extend (genesisStates height entries)

theorem find_extend_cases (store : Store) {states : List State} {key : String} {state : State}
    (found : (store.extend states).find? key = some state) :
    state ∈ states ∨ store.find? key = some state := by
  induction states generalizing store with
  | nil => exact .inr found
  | cons first rest ih =>
    rw [extend_cons] at found
    rcases ih _ found with later | here
    · exact .inl (List.mem_cons_of_mem _ later)
    · rw [find_insert] at here
      split at here
      · cases here
        exact .inl List.mem_cons_self
      · exact .inr here

theorem find_key {store : Store} {key : String} {state : State}
    (found : store.find? key = some state) : state.key = key := by
  simpa using List.find?_some found

theorem find_extend_isSome (store : Store) {states : List State} {key : String}
    (written : (store.find? key).isSome = true ∨ ∃ state ∈ states, state.key = key) :
    ((store.extend states).find? key).isSome = true := by
  induction states generalizing store with
  | nil => simpa [extend] using written
  | cons first rest ih =>
    rw [extend_cons]
    refine ih _ ?_
    rw [find_insert]
    by_cases same : first.key = key
    · simp [same]
    · simpa [same] using written

variable {height : Height} {entries : List GenesisEntry} {slot : Slot} {value : StateValue}

theorem mem_genesisStates {state : State} :
    state ∈ genesisStates height entries ↔ ∃ entry ∈ entries, ∃ placed ∈ entry.slots,
      state = ⟨placed.1.key, height, placed.2, []⟩ := by
  unfold genesisStates GenesisEntry.states
  simp only [List.mem_flatMap, GenesisEntry.writes_eq, List.map_map, List.mem_map,
    Function.comp_apply, eq_comm]

theorem genesis_origin (found : (genesis height entries).value? slot = some value) :
    ∃ entry ∈ entries, (slot, value) ∈ entry.slots := by
  obtain ⟨state, there, rfl⟩ := Option.map_eq_some_iff.mp found
  rcases find_extend_cases _ there with written | empty
  · obtain ⟨entry, listed, ⟨other, held⟩, member, rfl⟩ := mem_genesisStates.mp written
    obtain rfl := Slot.key_injective (find_key there)
    exact ⟨entry, listed, member⟩
  · cases empty

theorem genesis_holds {entry : GenesisEntry} (listed : entry ∈ entries)
    (member : (slot, value) ∈ entry.slots) :
    ∃ other, (genesis height entries).value? slot = some other := by
  have written : ((genesis height entries).find? slot.key).isSome = true :=
    find_extend_isSome _ (.inr ⟨⟨slot.key, height, value, []⟩,
      mem_genesisStates.mpr ⟨entry, listed, _, member, rfl⟩, rfl⟩)
  obtain ⟨state, found⟩ := Option.isSome_iff_exists.mp written
  exact ⟨state.value, by rw [value?, found]; rfl⟩

end Store
end SignedLedger

import SignedLedger.Proofs.Session.Block
import SignedLedger.Proofs.State.Refusal

-- Overdrafts of a block. Each operation is checked against the stored balances
-- alone, so a block may take more than there is; then two of its operations take
-- from the same account, and at least one of them has not claimed it as its sender.
namespace SignedLedger
open Check

def debitsAt (key : String) : MergeValue → Bool
  | .debit a amount => StateKey.balance a amount.currency = key
  | _ => false

def debits (key : String) (entry : Operation × List MergeValue) : Bool :=
  entry.2.any (debitsAt key)

theorem debits_exact {key : String} {entry : Operation × List MergeValue} :
    debits key entry = true ↔
      ∃ a amount, .debit a amount ∈ entry.2 ∧ StateKey.balance a amount.currency = key := by
  unfold debits
  rw [List.any_eq_true]
  constructor
  · rintro ⟨value, held, taken⟩
    cases value with
    | debit a amount => exact ⟨a, amount, held, of_decide_eq_true taken⟩
    | credit _ _ => cases taken
    | set _ _ => cases taken
  · rintro ⟨a, amount, held, same⟩
    exact ⟨_, held, decide_eq_true same⟩

-- Two operations, not one twice, that take from an account; not both of them hold
-- its sender claim.
def DebitedTwice (accepted : List (Operation × List MergeValue)) (a : Address) (c : Currency) :
    Prop :=
  ∃ one other, [one, other].Sublist accepted ∧ debits (StateKey.balance a c) one = true ∧
    debits (StateKey.balance a c) other = true ∧
    ¬ (⟨.sender, a.text⟩ ∈ one.1.claims ∧ ⟨.sender, a.text⟩ ∈ other.1.claims)

theorem two_of_countP {α : Type} {p : α → Bool} {items : List α} (many : 2 ≤ items.countP p) :
    ∃ one other, [one, other].Sublist items ∧ p one = true ∧ p other = true := by
  rw [List.countP_eq_length_filter] at many
  cases found : items.filter p with
  | nil => simp [found] at many
  | cons one rest =>
    cases rest with
    | nil => simp [found] at many
    | cons other rest =>
      have within : ∀ item ∈ one :: other :: rest, p item = true := fun item member =>
        (List.mem_filter.mp (found ▸ member)).2
      refine ⟨one, other, ?_, within one (by simp), within other (by simp)⟩
      have front : [one, other].Sublist (items.filter p) := by
        rw [found]
        exact ((List.nil_sublist rest).cons_cons other).cons_cons one
      exact front.trans List.filter_sublist

theorem valuesAt_append (key : String) (one other : List Batch) :
    valuesAt key (one ++ other) = valuesAt key one ++ valuesAt key other := by
  simp [valuesAt]

section Sums
variable {settings : Settings} {reader : Reader} {key : String}
  {entries : List (Operation × List MergeValue)}

theorem valuesAt_nonneg
    (all : ∀ entry ∈ entries, entry.1.Accepted settings reader entry.2)
    (quiet : entries.countP (debits key) = 0) :
    ∀ change ∈ (valuesAt key (batchesOf entries)).map MergeValue.units, 0 ≤ change := by
  intro change member
  obtain ⟨value, listed, rfl⟩ := List.mem_map.mp member
  obtain ⟨inside, named⟩ := List.mem_filter.mp listed
  obtain ⟨batch, mapped, held⟩ := List.mem_flatMap.mp inside
  obtain ⟨entry, own, rfl⟩ := List.mem_map.mp mapped
  have sound := (all entry own).sound value held
  cases value with
  | set _ _ => exact Int.le_refl 0
  | credit _ _ => exact sound
  | debit a amount =>
    refine absurd ?_ (List.countP_eq_zero.mp quiet entry own)
    exact debits_exact.mpr ⟨a, amount, held, of_decide_eq_true named⟩

theorem delta_nonneg {delta : Decimal}
    (all : ∀ entry ∈ entries, entry.1.Accepted settings reader entry.2)
    (quiet : entries.countP (debits key) = 0)
    (summed : (valuesAt key (batchesOf entries)).foldlM MergeValue.applyTo Decimal.zero =
      some delta) : 0 ≤ delta.units := by
  rw [← Decimal.units_zero]
  exact (applyTo_sums summed).le_of_nonneg (valuesAt_nonneg all quiet)

theorem own_check {entry : Operation × List MergeValue}
    (accepted : entry.1.Accepted settings reader entry.2) (taken : debits key entry = true) :
    ∃ delta stored resulting,
      Decimal.SumsTo Decimal.zero ((valuesAt key (batchesOf [entry])).map MergeValue.units) delta ∧
      Lookup.balanceByKey reader key = .ok stored ∧
      (stored.getD Decimal.zero).add? delta = some resulting ∧ 0 ≤ resulting.units := by
  obtain ⟨a, amount, held, rfl⟩ := debits_exact.mp taken
  have balanced := StateKey.isBalance_balance a amount.currency
  have checked := checkBalances_sums accepted.balanced balanced
    (fun other listed same => (accepted.sound other listed).kind_eq (same ▸ balanced))
    ⟨_, held, rfl⟩
  simpa [valuesAt, batchesOf] using checked

-- What a key holds after a block that takes from it once at most.
theorem total_nonneg {delta total : Decimal} {stored : Option Decimal}
    (all : ∀ entry ∈ entries, entry.1.Accepted settings reader entry.2)
    (single : entries.countP (debits key) ≤ 1)
    (nonneg : 0 ≤ (stored.getD Decimal.zero).units)
    (summed : (valuesAt key (batchesOf entries)).foldlM MergeValue.applyTo Decimal.zero =
      some delta)
    (read : Lookup.balanceByKey reader key = .ok stored)
    (closed : (stored.getD Decimal.zero).add? delta = some total) : 0 ≤ total.units := by
  rcases Nat.eq_zero_or_pos (entries.countP (debits key)) with quiet | taken
  · have zero := Decimal.rounds_self Decimal.zero
    rw [Decimal.units_zero] at zero
    have credits := delta_nonneg all quiet summed
    exact zero.mono (Decimal.add_rounds closed) (by omega)
  · obtain ⟨entry, member, debit⟩ := List.countP_pos_iff.mp taken
    obtain ⟨before, after, rfl⟩ := List.append_of_mem member
    rw [List.countP_append, List.countP_cons_of_pos debit] at single
    obtain ⟨own, stored', resulting, sums, read', added, kept⟩ := own_check (all entry member) debit
    rw [read] at read'
    cases read'
    -- All others only add to what the one operation leaves by itself.
    have split : valuesAt key (batchesOf (before ++ entry :: after)) =
        valuesAt key (batchesOf before) ++ valuesAt key (batchesOf [entry]) ++
          valuesAt key (batchesOf after) := by
      rw [← valuesAt_append, ← valuesAt_append]
      simp [batchesOf]
    have whole := applyTo_sums summed
    rw [split, List.map_append, List.map_append] at whole
    have more : own.units ≤ delta.units := by
      refine sums.le_within whole fun change listed => ?_
      rcases List.mem_append.mp listed with front | back
      · refine valuesAt_nonneg (fun other inside => all other ?_) (by omega) change front
        exact List.mem_append_left _ inside
      · refine valuesAt_nonneg (fun other inside => all other ?_) (by omega) change back
        exact List.mem_append_right _ (List.mem_cons_of_mem _ inside)
    exact kept.trans ((Decimal.add_rounds added).mono (Decimal.add_rounds closed) (by omega))

end Sums

theorem mergeStep_error {height : Height} {store : Store} {entry : Option Merger}
    {touch : Digest × MergeValue} {total : Decimal} {key : String}
    (failed : mergeStep height store.reader entry touch =
      .error (.invariant (.negativeBalance total key))) : False := by
  cases Merger.mergeStep_refusal failed with
  | reading unread => cases unread
  | summing money => exact money

theorem Merger.close_negative {m : Merger} {total : Decimal} {key : String}
    (failed : m.close = .error (.invariant (.negativeBalance total key))) :
    m.key = key ∧ ∃ merger, m.state = .balance merger ∧
      merger.committed.add? merger.delta = some total ∧ total.isNegative = true := by
  unfold Merger.close at failed
  rcases bind_error.mp failed with closing | ⟨_, _, none⟩
  · unfold Merger.closeValue at closing
    split at closing
    · cases closing
    · cases closing
    · rename_i merger held
      unfold Merger.closeBalance at closing
      split at closing
      · cases closing
      · rename_i sum added
        split at closing
        · rename_i negative
          cases closing
          exact ⟨rfl, merger, held, added, negative⟩
        · cases closing
  · cases none

-- Whatever is asked of a session over one store without negative balances, and in
-- whatever order the accepted operations are written: a balance falls below zero
-- only where two of them take from it, of which one at most claims its account as
-- sender.
theorem block_overdraft {settings : Settings} {e : Engine} {store : Store}
    (path : Engine.Reachable settings e) (rule : settings.duplication = .claims)
    (nonneg : store.NonNegative) (height : Height) (proposal : Option Proposal)
    {requests : List Request} (asked : ∀ request ∈ requests, request.Over store.reader)
    {order : List (Operation × List MergeValue)} :
    let desk := Desk.checkout e height proposal
    let accepted := desk.accepted requests
    order.Perm accepted →
      (∀ key delta stored total,
        (valuesAt key (batchesOf order)).foldlM MergeValue.applyTo Decimal.zero = some delta →
        Lookup.balanceByKey store.reader key = .ok stored →
        (stored.getD Decimal.zero).add? delta = some total → total.isNegative = true →
        ∃ a c, key = StateKey.balance a c ∧ DebitedTwice accepted a c) ∧
      ∀ written total key,
        applyMerges written (batchesOf order) store.reader =
          .error (.invariant (.negativeBalance total key)) →
        ∃ a c, key = StateKey.balance a c ∧ DebitedTwice accepted a c := by
  intro desk accepted same
  have kept := Desk.block_kept path rule height proposal asked
  have all : ∀ entry ∈ order, entry.1.Accepted settings store.reader entry.2 :=
    fun entry member => kept.accepted entry (same.mem_iff.mp member)
  have sums : ∀ key delta stored total,
      (valuesAt key (batchesOf order)).foldlM MergeValue.applyTo Decimal.zero = some delta →
      Lookup.balanceByKey store.reader key = .ok stored →
      (stored.getD Decimal.zero).add? delta = some total → total.isNegative = true →
      ∃ a c, key = StateKey.balance a c ∧ DebitedTwice accepted a c := by
    intro key delta stored total summed read closed negative
    -- Taken from once at most, the key would hold what that operation's own check has found.
    have twice : 2 ≤ accepted.countP (debits key) := by
      rw [← same.countP_eq]
      by_contra few
      have held := Store.holding_of_read read ▸ nonneg.holding key
      have := total_nonneg all (by omega) held summed read closed
      rw [Decimal.isNegative_iff] at negative
      omega
    obtain ⟨one, other, pair, first, second⟩ := two_of_countP twice
    obtain ⟨a, amount, _, rfl⟩ := debits_exact.mp first
    exact ⟨a, amount.currency, rfl, one, other, pair, first, second, kept.claims_apart pair _⟩
  refine ⟨sums, fun written total key failed => ?_⟩
  rcases applyMerges_error failed with ⟨entry, touch, merging⟩ | ⟨mergers, of, entry, member, closing⟩
  · exact (mergeStep_error merging).elim
  · obtain ⟨named, merger, state, closed, negative⟩ := Merger.close_negative closing
    obtain ⟨_, after⟩ := of.after_of_mem member
    rw [← after.key_eq, named] at after
    obtain ⟨key', m⟩ := entry
    cases after with
    | set _ _ _ => cases state
    | balance _ _ sum =>
      cases state
      obtain ⟨stored, read, committed⟩ := sum.committed
      rw [committed] at closed
      exact sums key _ stored total sum.delta read closed negative

def registryLedger : Store :=
  Sample.store [Sample.coins (.fixed Sample.bob (Sample.decimal 1 0)),
    Sample.held Sample.alice Sample.key, Sample.held Sample.bob Sample.key,
    .balance Sample.alice (Sample.amount 1 0), .contract Sample.carol ⟨Sample.bob, true, []⟩,
    .didDesign Sample.carol ⟨"ledger"⟩, .contract Sample.dave ⟨Sample.bob, true, []⟩,
    .didDesign Sample.dave ⟨"ledger"⟩]

def registration (registry : Address) : Operation :=
  Sample.signed .createDid (.createDid ⟨[1], Sample.alice, registry, Sample.key, Sample.coin⟩)
    Extensions.none

def registrations : List Request :=
  [.enter Context.active (registration Sample.carol) registryLedger.reader,
    .enter Context.active (registration Sample.dave) registryLedger.reader,
    .process Context.active (registration Sample.carol) registryLedger.reader,
    .process Context.active (registration Sample.dave) registryLedger.reader]

noncomputable def registered : List (Operation × List MergeValue) :=
  (Desk.checkout Sample.engine ⟨2⟩ none).accepted registrations

set_option maxRecDepth 100000 in
theorem registered_overdraw :
    registryLedger.NonNegative ∧
      applyMerges ⟨2⟩ (batchesOf registered) registryLedger.reader =
        .error (.invariant (.negativeBalance (Sample.decimal (-1) 0) "alice01-CUR:balance")) := by
  decide +kernel

theorem registrations_over : ∀ request ∈ registrations, request.Over registryLedger.reader := by
  simp only [registrations, List.mem_cons, List.not_mem_nil, or_false, forall_eq_or_imp, forall_eq]
  exact ⟨⟨rfl, rfl⟩, ⟨rfl, rfl⟩, ⟨rfl, rfl⟩, ⟨rfl, rfl⟩⟩

theorem accepted_block_overdraws :
    registryLedger.NonNegative ∧ (∀ request ∈ registrations, request.Over registryLedger.reader) ∧
      applyMerges ⟨2⟩ (batchesOf registered) registryLedger.reader =
        .error (.invariant (.negativeBalance (Sample.decimal (-1) 0) "alice01-CUR:balance")) :=
  ⟨registered_overdraw.1, registrations_over, registered_overdraw.2⟩

theorem block_overdraft_registrations :
    Sample.settings.duplication = .claims ∧ registryLedger.NonNegative ∧
      (∀ request ∈ registrations, request.Over registryLedger.reader) ∧
      DebitedTwice registered Sample.alice Sample.coin := by
  obtain ⟨nonneg, overdrawn⟩ := registered_overdraw
  refine ⟨rfl, nonneg, registrations_over, ?_⟩
  have path : Engine.Reachable Sample.settings Sample.engine := .new 1 1
  obtain ⟨_, failing⟩ := block_overdraft path rfl nonneg ⟨2⟩ none registrations_over
    (List.Perm.refl registered)
  obtain ⟨a, c, key, twice⟩ := failing ⟨2⟩ _ _ overdrawn
  have owner := congrArg StateKey.readBalance? key
  have named : StateKey.readBalance? "alice01-CUR:balance" = some (Sample.alice, Sample.coin) :=
    StateKey.readBalance_balance Sample.alice Sample.coin
  rw [named, StateKey.readBalance_balance] at owner
  cases owner
  exact twice

end SignedLedger

import Mathlib.Data.List.Sort
import SignedLedger.Proofs.Movements

-- Which fees an operation is charged, and where they go. Each currency of the fee base
-- that comes to more than nothing is one levy: the payer is debited with it, and right
-- behind that the receiver of the policy is credited, who is never missing.
namespace SignedLedger
open Check

inductive Pays (extensions : Extensions) (own : Address) : Address → Prop where
  | proxy {sender proxy : Address} (settled : extensions.settlement = some sender)
      (given : extensions.proxyPayer = some proxy) : Pays extensions own proxy
  | sender {sender : Address} (settled : extensions.settlement = some sender)
      (plain : extensions.proxyPayer = none) : Pays extensions own sender
  | own (unsettled : extensions.settlement = none) : Pays extensions own own

theorem Operation.payer_iff {op : Operation} {terms : FeeTerms} {payer : Address} :
    op.payer terms = payer ↔ Pays op.extensions terms.payer payer := by
  unfold Operation.payer
  constructor
  · rintro rfl
    split
    · exact .proxy ‹_› ‹_›
    · exact .sender ‹_› ‹_›
    · exact .own ‹_›
  · intro pays
    cases pays with
    | proxy settled given => simp [settled, given]
    | sender settled plain => simp [settled, plain]
    | own unsettled => simp [unsettled]

structure Levy where
  currency : Currency
  fee : Decimal
  receiver : Address

namespace Levy

def values (payer : Address) (levy : Levy) : List MergeValue :=
  .debit payer ⟨levy.currency, levy.fee⟩ ::
    if levy.receiver = payer then [] else [.credit levy.receiver ⟨levy.currency, levy.fee⟩]

def charge (payer : Address) (levy : Levy) : FeeCharge :=
  ⟨payer, some levy.receiver, ⟨levy.currency, levy.fee⟩⟩

theorem flatMap_values (payer : Address) (levies : List Levy) :
    (levies.map (charge payer)).flatMap feeEffects = levies.flatMap (values payer) := by
  rw [List.flatMap_map]
  rfl

end Levy

-- What is levied on a fee base: exactly the currencies whose fee is not zero, in their
-- order, always with a receiver.
structure Levied (reader : Reader) (payer : Address) (base : FeeBase) (levies : List Levy) :
    Prop where
  ascending : levies.Pairwise fun a b => a.currency < b.currency
  priced : ∀ c items, (c, items) ∈ base → ∃ policy fee, Priced reader c items policy fee
  charged : ∀ c items policy fee, (c, items) ∈ base → Priced reader c items policy fee →
    fee.value ≠ 0 → ∃ receiver, policy.receiver? = some receiver ∧ ⟨c, fee, receiver⟩ ∈ levies
  due : ∀ levy ∈ levies, ∃ items policy, (levy.currency, items) ∈ base ∧
    Priced reader levy.currency items policy levy.fee ∧ policy.receiver? = some levy.receiver
  positive : ∀ levy ∈ levies, 0 < levy.fee.value
  held : ∀ levy ∈ levies, ∃ balance,
    Lookup.balance reader payer levy.currency = .ok (some balance)
  received : ∀ levy ∈ levies, ∃ account,
    Lookup.account reader levy.receiver = .ok (some account)

variable {reader : Reader} {payer : Address} {base : FeeBase} {charges : List FeeCharge}
  {levies levies' : List Levy}

theorem chargesIn_currencies (done : chargesIn reader payer base = .ok charges) :
    (charges.map fun charge => charge.amount.currency).Sublist (base.map Prod.fst) := by
  induction base generalizing charges with
  | nil =>
    cases done
    exact .refl []
  | cons entry rest ih =>
    simp only [chargesIn, bind_ok, pure_ok] at done
    obtain ⟨charge, single, others, later, rfl⟩ := done
    cases charge with
    | none => exact .cons _ (ih later)
    | some charge =>
      obtain ⟨_, _, _, _, rfl⟩ := chargeIn_some.mp single
      exact .cons_cons _ (ih later)

theorem exists_levies (done : chargesIn reader payer base = .ok charges) :
    ∃ levies : List Levy, charges = levies.map (Levy.charge payer) := by
  have sound := chargesIn_sound done
  clear done
  induction charges with
  | nil => exact ⟨[], rfl⟩
  | cons charge rest ih =>
    obtain ⟨own, others⟩ := List.forall_mem_cons.mp sound
    obtain ⟨levies, rfl⟩ := ih others
    obtain ⟨payer', receiver, currency, fee⟩ := charge
    obtain ⟨account, rfl⟩ := Option.isSome_iff_exists.mp own.received
    obtain rfl : payer' = payer := own.payer_eq
    exact ⟨⟨currency, fee, account⟩ :: levies, rfl⟩

theorem levied_of_charges (ascending : Table.Ascending base)
    (done : chargesIn reader payer base = .ok (levies.map (Levy.charge payer)))
    (payable : ∀ levy ∈ levies, (levy.charge payer).Payable reader) :
    Levied reader payer base levies where
  ascending := by
    have ordered : (base.map Prod.fst).Pairwise (· < ·) := List.pairwise_map.mpr ascending
    have sorted := ordered.sublist (chargesIn_currencies done)
    rw [List.map_map] at sorted
    exact List.pairwise_map.mp sorted
  priced := by
    intro c items member
    obtain ⟨found, mapped, _⟩ := chargesIn_iff.mp done
    obtain ⟨charge, _, single⟩ := (mapM_mem mapped).1 _ member
    obtain ⟨policy, fee, priced, _⟩ := chargeIn_iff.mp single
    exact ⟨policy, fee, priced⟩
  charged := by
    intro c items policy fee member priced due
    have single : chargeIn reader payer c items =
        .ok (some ⟨payer, policy.receiver?, ⟨c, fee⟩⟩) :=
      chargeIn_some.mpr ⟨policy, fee, priced, by simpa [Decimal.value_eq_zero_iff] using due, rfl⟩
    obtain ⟨levy, listed, same⟩ := List.mem_map.mp ((chargesIn_mem done).mpr ⟨_, member, single⟩)
    simp only [Levy.charge, FeeCharge.mk.injEq, Amount.mk.injEq] at same
    obtain ⟨_, received, rfl, rfl⟩ := same
    exact ⟨levy.receiver, received.symm, listed⟩
  due := by
    intro levy listed
    obtain ⟨⟨c, items⟩, member, single⟩ :=
      (chargesIn_mem done).mp (List.mem_map_of_mem listed)
    obtain ⟨policy, fee, priced, _, same⟩ := chargeIn_some.mp single
    simp only [Levy.charge, FeeCharge.mk.injEq, Amount.mk.injEq] at same
    obtain ⟨_, received, rfl, rfl⟩ := same
    exact ⟨items, policy, member, priced, received.symm⟩
  positive := by
    intro levy listed
    exact Decimal.value_pos_iff.mpr (chargesIn_sound done _ (List.mem_map_of_mem listed)).positive
  held := fun levy listed => (payable levy listed).held
  received := fun levy listed => (payable levy listed).received _ rfl

theorem Levied.subset (one : Levied reader payer base levies)
    (other : Levied reader payer base levies') : levies ⊆ levies' := by
  intro levy listed
  obtain ⟨items, policy, member, priced, receiver⟩ := one.due levy listed
  obtain ⟨account, given, there⟩ :=
    other.charged _ _ _ _ member priced (one.positive levy listed).ne'
  rw [receiver] at given
  cases given
  exact there

theorem Levied.unique (one : Levied reader payer base levies)
    (other : Levied reader payer base levies') : levies = levies' := by
  have irreflexive : Std.Irrefl fun a b : Levy => a.currency < b.currency :=
    ⟨fun levy => Std.lt_irrefl⟩
  have antisymmetric : Std.Antisymm fun a b : Levy => a.currency < b.currency :=
    ⟨fun a b below above => absurd (Std.lt_trans below above) Std.lt_irrefl⟩
  exact List.Subset.antisymm_of_pairwise one.ascending other.ascending
    (one.subset other) (other.subset one)

theorem Levied.payable (levied : Levied reader payer base levies)
    (ascending : Table.Ascending base) :
    chargesIn reader payer base = .ok (levies.map (Levy.charge payer)) ∧
      ∀ levy ∈ levies, (levy.charge payer).Payable reader := by
  obtain ⟨charges, done⟩ : ∃ charges, chargesIn reader payer base = .ok charges := by
    obtain ⟨found, mapped⟩ : ∃ found,
        base.mapM (fun entry => chargeIn reader payer entry.1 entry.2) = .ok found :=
      mapM_succeeds.mpr fun entry member => by
        obtain ⟨policy, fee, priced⟩ := levied.priced _ _ member
        exact ⟨_, chargeIn_iff.mpr ⟨policy, fee, priced, rfl⟩⟩
    exact ⟨_, chargesIn_iff.mpr ⟨found, mapped, rfl⟩⟩
  obtain ⟨levies', rfl⟩ := exists_levies done
  have payable : ∀ levy ∈ levies', (levy.charge payer).Payable reader := by
    intro levy listed
    obtain ⟨⟨c, items⟩, member, single⟩ := (chargesIn_mem done).mp (List.mem_map_of_mem listed)
    obtain ⟨policy, fee, priced, due, same⟩ := chargeIn_some.mp single
    obtain ⟨receiver, given, there⟩ := levied.charged _ _ _ _ member priced
      (by simpa [Decimal.value_eq_zero_iff] using due)
    rw [same]
    refine ⟨levied.held _ there, fun other received => ?_⟩
    obtain rfl : receiver = other := Option.some.inj (given.symm.trans received)
    exact levied.received _ there
  obtain rfl := levied.unique (levied_of_charges ascending done payable)
  exact ⟨done, payable⟩

theorem Fact.feeBase_ascending {fact : Fact} {terms : FeeTerms}
    (declared : ∀ f : Declared, fact = .declared f → Table.Ascending terms.base)
    (given : fact.feeTerms? = some terms) : Table.Ascending terms.base := by
  have flat (c : Currency) : Table.Ascending (FeeBase.flat c) := List.pairwise_singleton _ _
  cases fact with
  | transfer f =>
    cases given
    exact (FeeBase.ofAmounts_sound _).1
  | createAccount f =>
    cases given
    exact (FeeBase.ofAmounts_sound _).1
  | createContract f =>
    cases given
    exact (FeeBase.ofAmounts_sound _).1
  | withdraw f =>
    cases given
    exact (FeeBase.ofAmounts_sound _).1
  | registerModel f =>
    cases given
    exact flat _
  | createDid f =>
    cases given
    exact flat _
  | updateDocument f =>
    cases given
    exact flat _
  | candidate f => cases given
  | declared f => exact declared f rfl

-- The fees of an operation are settled exactly where every currency can be priced, the
-- payer holds some of each currency that is due, and each receiver has an account; and
-- what is written then are the levies, one behind the other.
theorem feeValues_levied {op : Operation} {values : List MergeValue}
    (ordered : ∀ f terms, op.fact = .declared f → f.fee = some terms →
      Table.Ascending terms.base) :
    op.feeValues reader = .ok values ↔
      (op.fact.feeTerms? = none ∧ values = []) ∨
      ∃ terms payer levies, op.fact.feeTerms? = some terms ∧
        Pays op.extensions terms.payer payer ∧ Levied reader payer terms.base levies ∧
        values = levies.flatMap (Levy.values payer) := by
  rw [Operation.feeValues_iff]
  unfold Operation.charges
  cases given : op.fact.feeTerms? with
  | none =>
    constructor
    · rintro ⟨_, ⟨⟩, _, rfl⟩
      exact .inl ⟨rfl, rfl⟩
    · rintro (⟨_, rfl⟩ | ⟨_, _, _, ⟨⟩, _⟩)
      exact ⟨[], rfl, nofun, rfl⟩
  | some terms =>
    have ascending : Table.Ascending terms.base := by
      refine Fact.feeBase_ascending (fun f same => ordered f terms same ?_) given
      rw [same] at given
      exact given
    constructor
    · rintro ⟨charges, done, payable, rfl⟩
      obtain ⟨levies, rfl⟩ := exists_levies done
      have levied := levied_of_charges ascending done fun levy listed =>
        payable _ (List.mem_map_of_mem listed)
      exact .inr ⟨terms, _, levies, rfl, Operation.payer_iff.mp rfl, levied,
        Levy.flatMap_values _ _⟩
    · rintro (⟨⟨⟩, _⟩ | ⟨_, payer, levies, ⟨⟩, pays, levied, rfl⟩)
      obtain ⟨done, payable⟩ := levied.payable ascending
      rw [← Operation.payer_iff] at pays
      subst pays
      refine ⟨_, done, fun charge listed => ?_, (Levy.flatMap_values _ _).symm⟩
      obtain ⟨levy, member, rfl⟩ := List.mem_map.mp listed
      exact payable levy member

namespace Sample

def token : Currency := ⟨"TOK", by decide +kernel, by decide +kernel, by decide +kernel⟩

def tolled : Store := store
  [.currency ⟨coin, alice, decimal 1000 0, ⟨Decimal.zero, .free,
    some (.proportional carol (decimal 1 1) (decimal 2 0) (decimal 5 0))⟩⟩,
    .currency ⟨token, alice, decimal 1000 0, ⟨Decimal.zero, .free, none⟩⟩,
    held alice key, held bob key, held carol key, .balance bob (amount 100 0)]

def tollBase : FeeBase := [(coin, [decimal (-70) 0, decimal 40 0]), (token, [decimal 9 0])]

def tollable : Operation :=
  signed .transfer (.declared
    { Declared.bare FactKind.transfer.factHint [1] with fee := some ⟨alice, tollBase⟩ })
    ⟨none, some bob, none⟩

end Sample

theorem tollable_levied :
    (∀ f terms, Sample.tollable.fact = .declared f → f.fee = some terms →
      Table.Ascending terms.base) ∧
    ∃ levies, Levied Sample.tolled.reader Sample.bob Sample.tollBase levies ∧
      levies.flatMap (Levy.values Sample.bob) =
        [.debit Sample.bob (Sample.amount 60 1), .credit Sample.carol (Sample.amount 60 1)] := by
  have ordered : ∀ f terms, Sample.tollable.fact = .declared f → f.fee = some terms →
      Table.Ascending terms.base := by
    rintro f terms ⟨⟩ ⟨⟩
    unfold Sample.tollBase Table.Ascending
    decide +kernel
  have settled : Sample.tollable.feeValues Sample.tolled.reader =
      .ok [.debit Sample.bob (Sample.amount 60 1), .credit Sample.carol (Sample.amount 60 1)] := by
    decide +kernel
  refine ⟨ordered, ?_⟩
  rcases (feeValues_levied ordered).mp settled with
    ⟨none, _⟩ | ⟨terms, payer, levies, given, pays, levied, same⟩
  · cases none
  · cases given
    cases pays with
    | proxy _ proxied => cases proxied
    | sender named _ =>
      cases named
      exact ⟨levies, levied, same.symm⟩
    | own unsettled => cases unsettled

end SignedLedger

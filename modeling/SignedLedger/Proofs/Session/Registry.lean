import SignedLedger.Proofs.Session.Compatible
import SignedLedger.Proofs.Session.Served

-- What the standard registry serves with: the processor of the type that the hint
-- names, whatever the version. So only operations of that type are admitted, and of
-- the built-in types only candidates go without claims.
namespace SignedLedger
open Check

def Maker.kind? : Maker → Option FactKind
  | .builtIn kind => some kind
  | .custom _ => none

theorem Maker.kind_eq {maker : Maker} {kind : FactKind} :
    maker.kind? = some kind ↔ maker = .builtIn kind := by
  cases maker with
  | builtIn k => simp [kind?]
  | custom create => simp [kind?]

namespace Registry
variable {table : Table Hint Maker} {hint : Hint} {maker : Maker}

theorem findCompatible_mem (ascending : Table.Ascending table)
    (found : findCompatible table hint = some maker) :
    ∃ entry ∈ table, entry.2 = maker ∧ entry.1.kind = hint.kind := by
  have picked : Picks table.find? hint (some maker) := found ▸ findCompatible_picks ascending
  cases picked with
  | exact there => exact ⟨_, Table.find_mem there, rfl, rfl⟩
  | highest _ _ there _ => exact ⟨_, Table.find_mem there, rfl, rfl⟩

theorem standard_ascending :
    Table.Ascending standard.stateOnly ∧ Table.Ascending standard.proposalAware := by
  unfold Table.Ascending
  decide +kernel

theorem standard_entries : ∀ entry ∈ standard.stateOnly ++ standard.proposalAware,
    ∃ kind, entry = (kind.operationHint, .builtIn kind) := by
  have kinds : ∀ entry ∈ standard.stateOnly ++ standard.proposalAware,
      ∃ kind ∈ FactKind.all, entry.1 = kind.operationHint ∧ entry.2.kind? = some kind := by
    decide +kernel
  intro entry member
  obtain ⟨kind, _, named, typed⟩ := kinds entry member
  exact ⟨kind, Prod.ext named (Maker.kind_eq.mp typed)⟩

theorem standard_serves (found : findCompatible standard.stateOnly hint = some maker ∨
      findCompatible standard.proposalAware hint = some maker) :
    ∃ kind, maker = .builtIn kind ∧ hint.kind = kind.operationName := by
  obtain ⟨entry, member, rfl, named⟩ :
      ∃ entry ∈ standard.stateOnly ++ standard.proposalAware, entry.2 = maker ∧
        entry.1.kind = hint.kind := by
    rcases found with plain | proposed
    · obtain ⟨entry, member, rest⟩ := findCompatible_mem standard_ascending.1 plain
      exact ⟨entry, List.mem_append_left _ member, rest⟩
    · obtain ⟨entry, member, rest⟩ := findCompatible_mem standard_ascending.2 proposed
      exact ⟨entry, List.mem_append_right _ member, rest⟩
  obtain ⟨kind, rfl⟩ := standard_entries entry member
  exact ⟨kind, rfl, named.symm⟩

theorem standard_choose {proposal told : Option Proposal}
    (chosen : standard.choose proposal hint = .ok (maker, told)) :
    ∃ kind, maker = .builtIn kind ∧ hint.kind = kind.operationName ∧
      (kind = .candidate → told = proposal) := by
  unfold choose at chosen
  split at chosen
  · rename_i found
    cases chosen
    obtain ⟨kind, rfl, named⟩ := standard_serves (.inl found)
    refine ⟨kind, rfl, named, ?_⟩
    rintro rfl
    obtain ⟨entry, member, _, same⟩ := findCompatible_mem standard_ascending.1 found
    have apart : ∀ entry ∈ standard.stateOnly,
        entry.1.kind ≠ FactKind.candidate.operationName := by decide +kernel
    exact absurd (same.trans named) (apart entry member)
  · split at chosen
    · cases chosen
    · rename_i found
      split at chosen
      · cases chosen
      · cases chosen
        obtain ⟨kind, rfl, named⟩ := standard_serves (.inr found)
        exact ⟨kind, rfl, named, fun _ => rfl⟩

end Registry

section Standard
variable {settings : Settings} {height : Height} {proposal : Option Proposal} {reader : Reader}
  {op : Operation} {processor : Processor}

theorem Settings.standard_serving (standard : settings.registry = Registry.standard)
    (byHint : settings.dispatch.ByHint)
    (served : settings.server height proposal reader op = .ok processor) :
    ∃ kind told, processor = Processor.serving (.builtIn kind) height told reader ∧
      op.hint.kind = kind.operationName ∧ (kind = .candidate → told = proposal) := by
  obtain ⟨maker, told, kind, choice, made, rfl⟩ := server_serving served
  have chosen := byHint.chosen choice
  rw [standard] at chosen
  obtain ⟨k, rfl, named, shown⟩ := Registry.standard_choose chosen
  cases made
  exact ⟨k, told, rfl, named, shown⟩

theorem Settings.server_standard (standard : settings.registry = Registry.standard)
    (byHint : settings.dispatch.ByHint)
    (served : settings.server height proposal reader op = .ok processor) :
    ∃ kind, processor.kind = .builtIn kind ∧ op.hint.kind = kind.operationName := by
  obtain ⟨kind, told, rfl, named, _⟩ := standard_serving standard byHint served
  exact ⟨kind, rfl, named⟩

end Standard

theorem Processor.permit_kind {processor : Processor} {op : Operation} {kind : FactKind}
    (serving : processor.kind = .builtIn kind) (permitted : processor.permit op = .ok ()) :
    op.fact.kind? = some kind := by
  unfold permit at permitted
  split at permitted
  all_goals try rename_i served held
  all_goals try (rw [serving] at served; cases served; rw [held]; rfl)
  · simp at permitted
  · rw [serving] at held
    cases held

theorem FactKind.candidate_of_exempt {kind : FactKind}
    (exempt : exemptNames.contains kind.operationName = true) : kind = .candidate := by
  cases kind with
  | candidate => rfl
  | _ => exact absurd exempt (by decide)

theorem Operation.Permitted.claims_of_standard {settings : Settings} {height : Height}
    {proposal : Option Proposal} {reader : Reader} {op : Operation} {processor : Processor}
    (permitted : op.Permitted settings height proposal reader processor)
    (standard : settings.registry = Registry.standard) (byHint : settings.dispatch.ByHint)
    {set : ClaimSet} (made : op.fact.claims? = some set) : op.claims = set.claims := by
  obtain ⟨kind, serving, named⟩ := Settings.server_standard standard byHint permitted.served
  have typed := Processor.permit_kind serving permitted.permitted
  unfold Operation.claims
  rw [if_neg, made]
  · rfl
  · intro exempt
    unfold Hint.isExempt at exempt
    rw [named] at exempt
    obtain rfl := FactKind.candidate_of_exempt exempt
    cases held : op.fact with
    | candidate f =>
      rw [held] at made
      cases made
    | _ =>
      rw [held] at typed
      cases typed

end SignedLedger

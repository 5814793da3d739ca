import SignedLedger.Pipeline.Authorization
import SignedLedger.Proofs.Check

namespace SignedLedger
open Check
variable {network : NetworkId} {reader : Reader} {op : Operation} {a : Address}

def MeetsThreshold (network : NetworkId) (reader : Reader) (op : Operation) (a : Address) : Prop :=
  ∃ account keys, Lookup.account reader a = .ok (some account) ∧ account.keys = some keys ∧
    keys.threshold.toNat ≤ weightOfKeys keys (op.verifiedSigners network)

structure Authentication.Proves (proof : Authentication) (network : NetworkId) (reader : Reader)
    (op : Operation) (document : DidDocument) : Prop where
  stored : Lookup.didDocument reader proof.contract proof.did = .ok (some document)
  active : document.active = true
  proven : ∃ method ∈ document.authentication,
    method.publicKey.verifies (signMessage network op.factDigest) proof.proof = true

theorem checkThreshold_ok {account : Account} :
    checkThreshold network op account = .ok () ↔ ∃ keys, account.keys = some keys ∧
      keys.threshold.toNat ≤ weightOfKeys keys (op.verifiedSigners network) := by
  unfold checkThreshold
  cases account.keys with
  | none => simp
  | some keys => simp

theorem existingAccount_threshold_ok :
    (do checkThreshold network op (← Lookup.existingAccount reader a) : Check Unit) = .ok () ↔
      MeetsThreshold network reader op a := by
  unfold Lookup.existingAccount
  simp only [bind_ok, existing_ok, checkThreshold_ok, MeetsThreshold]
  constructor
  · rintro ⟨account, found, keys, held, reached⟩
    exact ⟨account, keys, found, held, reached⟩
  · rintro ⟨account, keys, found, held, reached⟩
    exact ⟨account, found, keys, held, reached⟩

theorem Authentication.verify_proves {proof : Authentication} {document : DidDocument}
    (verified : proof.verify network op reader = .ok document) :
    proof.Proves network reader op document := by
  unfold Authentication.verify Lookup.existingDidDocument at verified
  simp only [bind_ok, existing_ok, require_ok] at verified
  obtain ⟨found, stored, _, active, verified⟩ := verified
  split at verified
  · simp at verified
  · rename_i method named
    simp only [bind_ok, require_ok, pure_ok] at verified
    obtain ⟨_, proven, rfl⟩ := verified
    exact ⟨stored, active, method, List.mem_of_find?_eq_some named, proven⟩

theorem verifyProxyPayer_ok {proxy sender : Address} :
    verifyProxyPayer reader proxy sender = .ok () ↔ ∃ status,
      Lookup.contractStatus reader proxy = .ok (some status) ∧ status.isActive = true ∧
        status.admits sender = true := by
  unfold verifyProxyPayer Lookup.existingContractStatus
  simp only [bind_ok, existing_ok, require_ok, exists_const]

-- Who pays in the signer's place has signed, and a proxy contract admits it.
theorem verifyPayment_parts (verified : verifyPayment network op reader = .ok ()) :
    (∀ sender, op.extensions.settlement = some sender → MeetsThreshold network reader op sender) ∧
      ∀ proxy, op.extensions.proxyPayer = some proxy → ∃ sender status,
        op.extensions.settlement = some sender ∧
        Lookup.contractStatus reader proxy = .ok (some status) ∧ status.isActive = true ∧
          status.admits sender = true := by
  unfold verifyPayment verifySettlement at verified
  cases settled : op.extensions.settlement with
  | none =>
    cases proxied : op.extensions.proxyPayer with
    | none => exact ⟨nofun, nofun⟩
    | some proxy => simp [settled, proxied] at verified
  | some sender =>
    cases proxied : op.extensions.proxyPayer with
    | none =>
      simp only [settled, proxied] at verified
      refine ⟨fun other same => ?_, nofun⟩
      cases same
      exact existingAccount_threshold_ok.mp verified
    | some proxy =>
      simp only [settled, proxied, bind_ok] at verified
      obtain ⟨_, signed, admitted⟩ := verified
      refine ⟨fun other same => ?_, fun other same => ?_⟩
      · cases same
        exact existingAccount_threshold_ok.mp (bind_ok.mpr signed)
      · cases same
        obtain ⟨status, found, active, admits⟩ := verifyProxyPayer_ok.mp admitted
        exact ⟨sender, status, rfl, found, active, admits⟩

-- Either the signer's own account is opened, or a proof stands in for it, which
-- is accepted only next to a settlement.
theorem authorizeSigner_parts (authorized : authorizeSigner network op reader = .ok ()) :
    (∃ signer, op.fact.signer? = some signer ∧ op.extensions.delegated? = none ∧
        MeetsThreshold network reader op signer) ∨
      ∃ proof document payer, op.extensions.authentication = some proof ∧
        op.extensions.settlement = some payer ∧ proof.Proves network reader op document := by
  unfold authorizeSigner at authorized
  cases delegated : op.extensions.delegated? with
  | none =>
    simp only [delegated] at authorized
    cases acting : op.fact.signer? with
    | none => simp [acting] at authorized
    | some signer =>
      simp only [acting] at authorized
      exact .inl ⟨signer, rfl, rfl, existingAccount_threshold_ok.mp authorized⟩
  | some proof =>
    simp only [delegated, bind_ok] at authorized
    obtain ⟨document, verified, _⟩ := authorized
    unfold Extensions.delegated? at delegated
    split at delegated
    · rename_i payer attached settled
      cases delegated
      exact .inr ⟨proof, document, payer, attached, settled, Authentication.verify_proves verified⟩
    · cases delegated

theorem checkUser_parts {user : Address} (checked : checkUser op reader user = .ok ()) :
    (∃ account, Lookup.account reader user = .ok (some account)) ∧
      Lookup.contractStatus reader user = .ok none ∧
      (∀ proof, op.extensions.authentication = some proof → ∃ document,
        Lookup.didDocument reader proof.contract proof.did = .ok (some document) ∧
          document.controller = user) ∧
      (op.extensions.authentication = none → op.fact.signer? = some user) := by
  unfold checkUser Lookup.existingAccount Lookup.ensureNotContract Lookup.existingDidDocument
    at checked
  simp only [bind_ok, lift_ok, existing_ok, require_ok] at checked
  obtain ⟨account, found, _, ⟨status, read, absent⟩, checked⟩ := checked
  rw [Option.isNone_iff_eq_none] at absent
  subst absent
  refine ⟨⟨account, found⟩, read, fun proof attached => ?_, fun plain => ?_⟩
  · simp only [attached, bind_ok, existing_ok, require_ok, decide_eq_true_eq] at checked
    exact checked
  · simpa [plain] using checked

theorem checkCapabilities_parts (checked : checkCapabilities op reader = .ok ()) :
    op.checkAffordable reader = .ok () ∧
      (∀ user, op.fact.user? = some user → checkUser op reader user = .ok ()) ∧
      (∀ access ∈ op.fact.ownerOnly?.getD [], checkAccess reader access = .ok ()) ∧
      ∀ contract ∈ op.fact.activeContracts?.getD [], checkActive reader contract = .ok () := by
  unfold checkCapabilities at checked
  simp only [bind_ok] at checked
  obtain ⟨_, affordable, _, user, _, access, active⟩ := checked
  exact ⟨affordable, optionForM_ok.mp user, forM_ok.mp access, forM_ok.mp active⟩

end SignedLedger

import SignedLedger.Pipeline.Fee

-- Who may send an operation. The signer's account is opened by the signs, or by
-- a proof next to a settlement; whoever else pays has to agree as well.
namespace SignedLedger

def weightOfKeys (keys : AccountKeys) (signers : List PublicKey) : Nat :=
  sumOfWeights (signers.filterMap keys.weightOf)

def checkThreshold (network : NetworkId) (op : Operation) (account : Account) : Check Unit :=
  match account.keys with
  | none => reject .unauthorized s!"account {account.address} has no signing keys"
  | some keys =>
    let weight := weightOfKeys keys (op.verifiedSigners network)
    require (keys.threshold.toNat ≤ weight) .unauthorized
      s!"signs of {account.address} weigh {weight} below threshold {keys.threshold.toNat}"

def Authentication.verify (network : NetworkId) (op : Operation) (reader : Reader)
    (a : Authentication) : Check DidDocument := do
  let document ← Lookup.existingDidDocument reader a.contract a.did
  require document.active .unauthorized s!"did document {a.did} deactivated"
  match document.method? a.methodId with
  | none => reject .stateNotFound s!"authentication {a.methodId} not found in {a.did}"
  | some method =>
    require (method.publicKey.verifies (signMessage network op.factDigest) a.proof) .unauthorized
      s!"invalid proof for {a.methodId}"
    return document

def verifySettlement (network : NetworkId) (op : Operation) (reader : Reader)
    (sender : Address) : Check Unit := do
  checkThreshold network op (← Lookup.existingAccount reader sender)

def verifyProxyPayer (reader : Reader) (proxy sender : Address) : Check Unit := do
  let status ← Lookup.existingContractStatus reader proxy
  require status.isActive .contractStatus s!"proxy payer {proxy} is not active"
  require (status.admits sender) .unauthorized
    s!"{sender} is neither owner nor handler of proxy payer {proxy}"

def verifyPayment (network : NetworkId) (op : Operation) (reader : Reader) : Check Unit :=
  match op.extensions.settlement, op.extensions.proxyPayer with
  | some sender, none => verifySettlement network op reader sender
  | some sender, some proxy => do
    verifySettlement network op reader sender
    verifyProxyPayer reader proxy sender
  | none, some proxy => reject .invalidFact s!"proxy payer {proxy} without settlement"
  | none, none => .ok ()

def authorizeSigner (network : NetworkId) (op : Operation) (reader : Reader) : Check Unit :=
  match op.extensions.delegated? with
  | some authentication => do
    let _ ← authentication.verify network op reader
  | none =>
    match op.fact.signer? with
    | none => fail (.missingCapability op.hint .signer)
    | some signer => do
      checkThreshold network op (← Lookup.existingAccount reader signer)

def authorize (network : NetworkId) (op : Operation) (reader : Reader) : Check Unit := do
  authorizeSigner network op reader
  verifyPayment network op reader

-- With an authentication the user has to control its document; otherwise the
-- user is the signer.
def checkUser (op : Operation) (reader : Reader) (user : Address) : Check Unit := do
  let _ ← Lookup.existingAccount reader user
  Lookup.ensureNotContract reader user
  match op.extensions.authentication with
  | some a => do
    let document ← Lookup.existingDidDocument reader a.contract a.did
    require (document.controller = user) .unauthorized s!"{user} does not control {a.did}"
  | none =>
    require (op.fact.signer? = some user) .unauthorized s!"fact user {user} is not the signer"

def statusText (isActive : Bool) : String := if isActive then "active" else "inactive"

def checkAccess (reader : Reader) (access : ContractAccess) : Check Unit := do
  let status ← Lookup.existingContractStatus reader access.contract
  require (status.admits access.actor) .unauthorized
    s!"{access.actor} is neither owner nor handler of {access.contract}"
  let found := statusText status.isActive
  require (access.status.allows status.isActive) .contractStatus
    s!"contract {access.contract} is {found}, requires {access.status.text}"

def checkActive (reader : Reader) (contract : Address) : Check Unit := do
  let status ← Lookup.existingContractStatus reader contract
  require status.isActive .contractStatus s!"contract {contract} is not active"

def checkCapabilities (op : Operation) (reader : Reader) : Check Unit := do
  op.checkAffordable reader
  op.fact.user?.forM (checkUser op reader)
  (op.fact.ownerOnly?.getD []).forM (checkAccess reader)
  (op.fact.activeContracts?.getD []).forM (checkActive reader)

end SignedLedger

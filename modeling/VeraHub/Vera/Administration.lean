import VeraHub.Acp.Calls
import VeraHub.Vera.Tokens

/-!
# Operator approvals and relay grants

An administrative request changes the access control module or the Vera module
after a quorum of the current operators has signed it.  Relay grants carry the
sequence of the request that installed them.
-/

namespace VeraHub.Vera

open VeraHub.Zanzibar VeraHub.Acp

/-! ## Both modules -/

/-- The two modules that administrative and delegated operations change. -/
structure Hub where
  acp : AcpModule
  vera : VeraModule

/-- An operation on both modules. -/
abbrev HubM (ε α : Type) : Type :=
  Exec Hub ε α

namespace Hub

def onAcp {ε α : Type} (translate : AcpError → ε) (body : AcpM α) :
    HubM ε α :=
  Exec.within Hub.acp (fun hub acp => { hub with acp := acp }) translate body

def onVera {ε α : Type} (translate : VeraError → ε) (body : VeraM α) :
    HubM ε α :=
  Exec.within Hub.vera (fun hub vera => { hub with vera := vera }) translate body

end Hub

/-! ## Operator policies -/

def invalidRequest (reason : String) : VeraError :=
  .invalidAdministrativeRequest reason

def decodeHex (text : String) : Except VeraError Bytes :=
  match hexDecode (utf8 text) with
  | none => .error (invalidRequest "Invalid character")
  | some bytes => .ok bytes

def decodeLowerHex (text mismatch : String) : Except VeraError Bytes := do
  let bytes ← decodeHex text
  if hexEncode bytes ≠ utf8 text then
    .error (invalidRequest mismatch)
  else
    .ok bytes

namespace Crypto

variable (crypto : Crypto)

def decodePubkey (publicKey : Bytes) : Except VeraError Unit :=
  if publicKey.length ≠ 33 then
    .error (invalidRequest
      ("invalid compressed pubkey length: expected 33 bytes, got " ++ toString publicKey.length))
  else
    match crypto.readKey publicKey with
    | .error message =>
      .error (invalidRequest s!"pubkey recovery failed: {message}")
    | .ok () => .ok ()

/-- Verify a canonical compact signature over a digest. -/
def verifyDigest (publicKey digest signature : Bytes) :
    Except VeraError Unit := do
  crypto.decodePubkey publicKey
  match Signature.fromSlice signature with
  | none => .error (invalidRequest "pubkey recovery failed: signature error")
  | some parsed =>
    if parsed.isHigh then
      .error (invalidRequest "pubkey recovery failed: noncanonical signature")
    else if crypto.verifyPrehash publicKey digest parsed then
      .ok ()
    else
      .error (invalidRequest "pubkey recovery failed: signature error")

end Crypto

namespace OperatorPolicy

/-- Maximum number of operator keys in one approval policy. -/
def maxOperators : Nat :=
  128

def Ordered (policy : OperatorPolicy) : Prop :=
  (policy.keys.map utf8).IsChain (· < ·)

instance (policy : OperatorPolicy) : Decidable policy.Ordered :=
  inferInstanceAs (Decidable (List.IsChain (· < ·) _))

def validateKey (crypto : Crypto) (key : String) : Except VeraError Unit :=
  if (utf8 key).length ≠ 66 then
    .error (invalidRequest "operator keys must contain 33 bytes")
  else do
    let bytes ← decodeLowerHex key "operator keys must use lowercase hexadecimal"
    crypto.decodePubkey bytes

/-- Reject impossible thresholds, duplicate keys and noncanonical
encodings. -/
def validate (crypto : Crypto) (policy : OperatorPolicy) :
    Except VeraError Unit :=
  if policy.threshold = 0 ∨ policy.keys.length < policy.threshold.toNat ∨
      maxOperators < policy.keys.length ∨ ¬ policy.Ordered then
    .error (invalidRequest "invalid operator threshold or key order")
  else
    policy.keys.forM (validateKey crypto)

end OperatorPolicy

/-! ## Requests -/

/-- Changes authorized by the current operator quorum. -/
inductive AdministrativeCommand where
  | rotateOperators (policy : OperatorPolicy)
  | initializeMembershipPolicy (policyId : Bytes)
  | setAcpParameters (parameters : AcpParams)
  | setRelay (grant : RelayGrant)
  | revokeRelay (issuer : String)
  | setOperationBudget (bytes : UInt64)
deriving DecidableEq

/-- The exact request covered by each operator signature. -/
structure AdministrativeRequest where
  genesisId : Bytes
  sequence : UInt64
  expiresAt : UInt64
  command : AdministrativeCommand
deriving DecidableEq

/-- One signature from the current operator policy. -/
structure OperatorApproval where
  signer : UInt16
  signature : String
deriving DecidableEq

/-- Administrative request and its independent operator approvals. -/
structure SignedAdministrativeRequest where
  request : AdministrativeRequest
  approvals : List OperatorApproval
deriving DecidableEq

def leBytes16 (value : UInt16) : Bytes :=
  (bigEndian 2 value.toNat).reverse

def borshDuration : Duration → Bytes
  | .seconds count => 0 :: leBytes count
  | .blocks count => 1 :: leBytes count

def AdministrativeCommand.encoded : AdministrativeCommand → Bytes
  | .rotateOperators policy =>
    0 :: leBytes16 policy.threshold ++ borshLength policy.keys.length ++
      policy.keys.flatMap borshString
  | .initializeMembershipPolicy policyId => 1 :: policyId
  | .setAcpParameters parameters =>
    2 :: leBytes parameters.policyCommandMaxExpirationDelta ++
      borshDuration parameters.registrationsCommitmentValidity
  | .setRelay grant =>
    3 :: borshString grant.issuer ++ borshLength grant.scopes.length ++
      (grant.scopes.map fun scope => UInt8.ofNat scope.rank) ++ leBytes grant.expiresAt
  | .revokeRelay issuer => 4 :: borshString issuer
  | .setOperationBudget bytes => 5 :: leBytes bytes

/-- Hash of the signing namespace followed by the encoded request. -/
def AdministrativeRequest.signingDigest (sha256 : Bytes → Bytes)
    (request : AdministrativeRequest) : Bytes :=
  sha256 (utf8 "vera/admin/v1" ++ [0] ++ request.genesisId ++
    leBytes request.sequence ++ leBytes request.expiresAt ++ request.command.encoded)

namespace VeraModule

/-! ## Relay grants -/

def maxRelayTokenTtl : Nat :=
  600

def relayKey (crypto : Crypto) (issuer : String) : Except VeraError Bytes :=
  let refused := VeraError.invalidJws "relay issuer must use a canonical compressed key DID"
  if 128 < (utf8 issuer).length then
    .error refused
  else
    match crypto.canonicalIssuer issuer with
    | .error error => .error (.invalidJws error.text)
    | .ok canonical =>
      if canonical ≠ issuer then .error refused
      else .ok (relayPrefix ++ utf8 issuer)

def relay (crypto : Crypto) (issuer : String) (module : VeraModule) :
    Except VeraError (Option RelayState) := do
  let key ← relayKey crypto issuer
  match module.store.get key with
  | none => .ok none
  | some value =>
    match value.decodeRelay with
    | .error message => .error (.state message)
    | .ok state => .ok (some state)

def OrderedScopes (scopes : List DelegationScope) : Prop :=
  (scopes.map DelegationScope.rank).IsChain (· < ·)

instance (scopes : List DelegationScope) : Decidable (OrderedScopes scopes) :=
  inferInstanceAs (Decidable (List.IsChain (· < ·) _))

def setRelay (crypto : Crypto) (grant : RelayGrant) (sequence now : UInt64) :
    VeraM Unit := do
  let key ← Exec.ofExcept (relayKey crypto grant.issuer)
  Exec.failIf
    (grant.scopes = [] ∨ 4 < grant.scopes.length ∨
      ¬ OrderedScopes grant.scopes ∨ grant.expiresAt ≤ now)
    (.invalidJws "invalid relay scopes or expiration")
  Exec.modify fun module => module.withStored key (.relay ⟨grant, sequence⟩)

def revokeRelay (crypto : Crypto) (issuer : String) : VeraM Unit := do
  let key ← Exec.ofExcept (relayKey crypto issuer)
  let existing ← Exec.gets fun module => module.store.get key
  Exec.failIf (existing.isNone) (.invalidJws "relay grant does not exist")
  Exec.modify fun module => module.withoutStored key

/-- Whether a grant covers the assertion of a relay token. -/
def assertionWithin (claims : JwtClaims) (assertion : RelayAssertion)
    (state : RelayState) (operation : Bytes) (context : BlockExecCtx) :
    Bool :=
  decide (context.genesisId ≠ zeroId) &&
    decide (assertion.genesisId = context.genesisId) &&
      decide (assertion.grantSequence = state.sequence) &&
        decide (assertion.operation = operation) &&
          decide (claims.scope ∈ state.grant.scopes) &&
            decide (claims.exp ≤ state.grant.expiresAt) &&
              decide (context.timestamp.seconds < claims.exp) &&
                decide (claims.exp.toNat - claims.iat.toNat ≤ maxRelayTokenTtl) &&
                  decide (claims.nbf = claims.iat) &&
                    startsWith assertion.actor didOpkPrefix && didAccepts assertion.actor

/-- Check a relay assertion against the current grant of its issuer. -/
def authorizeRelay (crypto : Crypto) (claims : JwtClaims) (operation : Bytes)
    (context : BlockExecCtx) (module : VeraModule) : Except VeraError Unit :=
  match claims.relay with
  | none => .ok ()
  | some assertion => do
      match ← relay crypto claims.iss module with
      | none => .error (.invalidJws "relay is not authorized")
      | some state =>
        if assertionWithin claims assertion state operation context then
          .ok ()
        else
          .error (.invalidJws "relay assertion exceeds its grant or operation")

/-! ## Operator authority -/

/-- Seed operator authority once during initialization. -/
def initializeAdministration (crypto : Crypto) (policy : OperatorPolicy) :
    VeraM Unit := do
  Exec.ofExcept (policy.validate crypto)
  let existing ← Exec.gets fun module => module.store.get administrationKey
  Exec.failIf (existing.isSome) (invalidRequest "operator authority is already initialized")
  Exec.modify fun module =>
    module.withStored administrationKey (.administration ⟨policy, 0, none⟩)

def administration (module : VeraModule) :
    Except VeraError (Option AdministrationState) :=
  match module.store.get administrationKey with
  | none => .ok none
  | some value =>
    match value.decodeAdministration with
    | .error message => .error (.state message)
    | .ok state => .ok (some state)

/-- The operator authority, which must have been configured. -/
def configuredAdministration (module : VeraModule) :
    Except VeraError AdministrationState := do
  match ← administration module with
  | none => .error (invalidRequest "operator authority is not configured")
  | some state => .ok state

def OrderedApprovals (approvals : List OperatorApproval) : Prop :=
  (approvals.map OperatorApproval.signer).IsChain (· < ·)

instance (approvals : List OperatorApproval) :
    Decidable (OrderedApprovals approvals) :=
  inferInstanceAs (Decidable (List.IsChain (· < ·) _))

def verifyApproval (crypto : Crypto) (policy : OperatorPolicy)
    (digest : Bytes) (approval : OperatorApproval) :
    Except VeraError Unit :=
  match policy.keys[approval.signer.toNat]? with
  | none => .error (invalidRequest "operator index is outside the policy")
  | some key =>
    if (utf8 approval.signature).length ≠ 128 then
      .error (invalidRequest "operator signature must contain 64 bytes")
    else do
      let signature ← decodeLowerHex approval.signature
        "operator signature must use lowercase hexadecimal"
      let keyBytes ← decodeHex key
      crypto.verifyDigest keyBytes digest signature

def advancedAdministration (crypto : Crypto) (acp : AcpModule)
    (state : AdministrationState) (command : AdministrativeCommand) :
    Except VeraError AdministrationState :=
  match checkedSucc state.sequence with
  | none => .error (invalidRequest "administrative sequence is exhausted")
  | some sequence =>
    match command with
    | .rotateOperators policy => do
        policy.validate crypto
        .ok { state with sequence := sequence, policy := policy }
    | .initializeMembershipPolicy policyId =>
      if state.membershipPolicy.isSome ∨ policyId = zeroId then
        .error (invalidRequest "membership policy is already configured or invalid")
      else
        match AcpModule.getPolicyRecord (hexText policyId) acp with
        | .error error => .error (invalidRequest error.text)
        | .ok none =>
          .error (invalidRequest (AcpError.policyNotFound (hexText policyId)).text)
        | .ok (some _) =>
          .ok { state with
            sequence := sequence
            membershipPolicy := some policyId }
    | _ => .ok { state with sequence := sequence }

end VeraModule

namespace Hub

open VeraModule

/-- What a command changes besides the administrative state. -/
def applyCommand (crypto : Crypto) (sequence now : UInt64) :
    AdministrativeCommand → HubM VeraError Unit
  | .rotateOperators _ => pure ()
  | .initializeMembershipPolicy _ => pure ()
  | .setAcpParameters parameters =>
    onAcp (fun error => invalidRequest error.text) (AcpModule.setParams parameters)
  | .setRelay grant =>
    onVera (fun error => invalidRequest error.text) (VeraModule.setRelay crypto grant sequence now)
  | .revokeRelay issuer =>
    onVera (fun error => invalidRequest error.text) (VeraModule.revokeRelay crypto issuer)
  | .setOperationBudget bytes =>
    onAcp (fun error => invalidRequest error.text) (AcpModule.setOperationBudget bytes)

/-- Verify a quorum and apply one administrative change. -/
def applyAdministrativeRequest (crypto : Crypto) (genesisId : Bytes)
    (now : UInt64) (signed : SignedAdministrativeRequest) :
    HubM VeraError Unit := do
  let state ← Exec.query fun hub => configuredAdministration hub.vera
  let request := signed.request
  Exec.failIf
    (genesisId = zeroId ∨ request.genesisId ≠ genesisId ∨
      request.sequence ≠ state.sequence ∨ request.expiresAt < now)
    (invalidRequest "deployment, sequence or expiration mismatch")
  Exec.failIf
    (signed.approvals.length < state.policy.threshold.toNat ∨
      state.policy.keys.length < signed.approvals.length ∨ ¬ OrderedApprovals signed.approvals)
    (invalidRequest "insufficient or duplicate operator approvals")
  Exec.ofExcept
    (signed.approvals.forM
      (verifyApproval crypto state.policy (request.signingDigest crypto.sha256)))
  let advanced ← Exec.query fun hub =>
    advancedAdministration crypto hub.acp state request.command
  applyCommand crypto request.sequence now request.command
  Exec.modify fun hub =>
    { hub with
      vera := hub.vera.withStored administrationKey (.administration advanced) }

end Hub

end VeraHub.Vera

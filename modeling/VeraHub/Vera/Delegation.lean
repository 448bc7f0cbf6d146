import VeraHub.Vera.Administration

/-!
# Delegated operations

A worker submits an operation for an actor, with a token that the actor signed
or a relay attested.  The token is checked against the submission and the
current revocations, the operation runs on both modules, and its outcome is
kept under the actor and the identity of the request.  A failure undoes the
writes to both modules.
-/

namespace VeraHub.Vera

open VeraHub.Zanzibar VeraHub.Acp

/-! ## Authorization -/

namespace VeraModule

def checkScope (scope : DelegationScope) (claims : JwtClaims) :
    Except VeraError Unit :=
  if claims.scope ≠ scope then
    .error (.invalidJws "delegation does not authorize this operation")
  else
    .ok ()

def checkCaller (context : BlockExecCtx) (caller : Did) (claims : JwtClaims) :
    Except VeraError Unit :=
  match claims.authorize caller.asStr context.deploymentId context.timestamp.seconds with
  | .error error => .error (.invalidJws error.text)
  | .ok () => .ok ()

/-- A request identity is current and bound to this operation and
deployment. -/
def checkRequest (context : BlockExecCtx) (operation : Bytes)
    (claims : JwtClaims) : Except VeraError Unit :=
  match claims.request with
  | none => .ok ()
  | some request =>
    match request.id.validate context.timestamp.seconds with
    | .error error => .error (.invalidJws error.text)
    | .ok () =>
      if context.genesisId = zeroId ∨
          request.genesisId ≠ context.genesisId ∨
            request.digest ≠ operation ∨ request.id.expiresAt < claims.exp then
        .error (.invalidJws "operation identity does not bind this request")
      else
        .ok ()

def checkRevocation (crypto : Crypto) (token : String)
    (module : VeraModule) : Except VeraError Unit := do
  let stored ← getJwsToken (hashJwsToken crypto.sha256 token) module
  if stored.any fun record => decide (record.status ≠ .valid) then
    .error (.invalidJws "token has been revoked")
  else
    .ok ()

/-- Verify a delegation against the authenticated caller and current
revocations. -/
def authorizeDelegation (crypto : Crypto) (context : BlockExecCtx)
    (caller : Did) (token : String) (scope : DelegationScope)
    (operation : Bytes) (module : VeraModule) :
    Except VeraError JwtClaims := do
  let claims ← verifiedClaims crypto token
  checkScope scope claims
  checkCaller context caller claims
  authorizeRelay crypto claims operation context module
  checkRequest context operation claims
  checkRevocation crypto token module
  .ok claims

end VeraModule

/-! ## Operations -/

/-- Exact semantic arguments authorized by a token; requests of the threshold
services are their encodings. -/
inductive DelegatedOperation where
  | storeThresholdObject (object : Bytes)
  | ringCommand (command : Bytes)
  | createPolicy (policy : String) (marshalType : PolicyMarshalingType)
  | editPolicy (policyId policy : String) (marshalType : PolicyMarshalingType)
  | policyCommand (policyId : String) (cmd : PolicyCmd)
  | checkAccess (policyId : String) (request : AccessRequest)

/-- What a request of a threshold service does for its actor: the object it
registers, the record it writes below the services' keys and its result. -/
structure ServiceOutcome where
  registration : Option (String × Object)
  path : String
  record : Bytes
  result : Bytes

/-- What both modules take from other libraries, and the threshold services,
which read both modules to decide on a request. -/
structure HubExternals where
  crypto : Crypto
  subjectJson : Subject → Bytes
  parsePolicyYaml : String → Except String ParsedPolicy
  parsePolicyJson : String → Except String ParsedPolicy
  encodedLength : StoredValue → Nat
  policyJson : Policy → Bytes
  operationJson : DelegatedOperation → Bytes
  validateService : Bytes → Except AcpError Unit
  storeObject : Bytes → BlockExecCtx → Did → Hub → Except AcpError ServiceOutcome
  ringCommand : Bytes → BlockExecCtx → Did → Hub → Except AcpError ServiceOutcome

/-- The part of it that the access control module takes. -/
def HubExternals.acp (externals : HubExternals) : Externals where
  hashing := ⟨externals.crypto.sha256, externals.subjectJson⟩
  parsePolicyYaml := externals.parsePolicyYaml
  parsePolicyJson := externals.parsePolicyJson
  encodedLength := externals.encodedLength
  policyJson := externals.policyJson
  canonicalIssuer issuer :=
    match externals.crypto.canonicalIssuer issuer with
    | .ok canonical => .ok canonical
    | .error error => .error error.text

namespace DelegatedOperation

def scope : DelegatedOperation → DelegationScope
  | .createPolicy _ _ => .createPolicy
  | .editPolicy _ _ _ => .editPolicy
  | .policyCommand _ _ => .policyCommands
  | .checkAccess _ _ => .recordAccessDecision
  | .ringCommand _ => .manageRings
  | .storeThresholdObject _ => .storeThresholdObject

def digest (externals : HubExternals) (operation : DelegatedOperation) :
    Bytes :=
  externals.crypto.sha256 (utf8 "vera/acp-operation/v1" ++ [0] ++ externals.operationJson operation)

def readResult (operation : DelegatedOperation) (result : OperationResult) :
    Except String OperationResult :=
  match operation, result with
  | .createPolicy _ _, .policy _ => .ok result
  | .editPolicy _ _ _, .edited _ _ => .ok result
  | .policyCommand _ _, .command kept =>
    match StoredValue.decodeCommand kept with
    | .ok _ => .ok result
    | .error message => .error message
  | .checkAccess _ _, .decision _ => .ok result
  | .ringCommand _, .foreign _ _ => .ok result
  | .storeThresholdObject _, .foreign _ _ => .ok result
  | _, _ => .error "invalid type"

def precheck (externals : HubExternals) (submission : TxExecCtx) :
    DelegatedOperation → Except AcpError Unit
  | .createPolicy _ _ =>
    if submission.txHash.length ≠ 32 then
      .error (.state "missing authenticated submission identifier")
    else
      .ok ()
  | .storeThresholdObject object => externals.validateService object
  | .ringCommand command => externals.validateService command
  | _ => .ok ()

end DelegatedOperation

namespace Hub

/-! ## Bodies -/

def serviceKey (path : String) : Bytes :=
  utf8 "orbis/" ++ utf8 path

section Bodies

variable (externals : HubExternals) (context : BlockExecCtx) (submission : TxExecCtx) (actor : Did)

/-- Register the object of a new service record for its actor. -/
def registerService : Option (String × Object) → HubM AcpError Unit
  | none => pure ()
  | some (policyId, object) => do
      let _ ← onAcp (fun error => .state s!"invalid ring request: {error.text}")
        (AcpModule.directPolicyCmd externals.acp actor policyId (.registerObject object))
      pure ()

/-- Serve a request: decide on it, register its object and write its
record. -/
def serve (nesting : Nat) (request : Hub → Except AcpError ServiceOutcome) :
    HubM AcpError OperationResult := do
  let outcome ← Exec.query request
  registerService externals actor outcome.registration
  Exec.modify fun hub =>
    { hub with
      vera := hub.vera.withStored (serviceKey outcome.path) (.service outcome.record) }
  pure (.foreign nesting outcome.result)

/-- Keep the result of an operation of the access control module. -/
def keeping {α : Type} (toResult : α → OperationResult) (body : AcpM α) :
    HubM AcpError OperationResult := do
  let result ← onAcp (fun error => error) body
  pure (toResult result)

/-- What an operation does for its actor; a decision is recorded for the
worker. -/
def body (worker : Did) : DelegatedOperation → HubM AcpError OperationResult
  | .createPolicy policy marshalType =>
    keeping .policy
      (AcpModule.createPolicyWithMetadata externals.acp policy marshalType
        ⟨context.timestamp, submission.txHash, submission.signer, actor.asStr⟩)
  | .editPolicy policyId policy marshalType =>
    keeping (fun edited => .edited edited.1 edited.2)
      (AcpModule.editPolicy externals.acp actor policyId policy marshalType)
  | .policyCommand policyId cmd =>
    keeping .command
      (AcpModule.executePolicyCmd externals.acp actor policyId cmd context submission)
  | .checkAccess policyId request =>
    keeping .decision
      (AcpModule.checkAccess externals.acp worker policyId request context submission)
  | .ringCommand command =>
    serve externals actor 4 (externals.ringCommand command context actor)
  | .storeThresholdObject object =>
    serve externals actor 2 (externals.storeObject object context actor)

end Bodies

/-! ## Running under a delegation -/

/-- Errors of the Vera module, seen by the access control module. -/
def invalidBearer (error : VeraError) : AcpError :=
  .invalidBearerToken error.text

section Delegation

variable (externals : HubExternals) (context : BlockExecCtx)
  (submission : TxExecCtx) (token : String)

/-- Keep the outcome of a request that carries an identity. -/
def keepOutcome (digest : Bytes) (actor : Did)
    (request : Option OperationClaim) (result : OperationResult) :
    HubM AcpError Unit :=
  match request with
  | none => pure ()
  | some request =>
    onAcp (fun error => error)
      (AcpModule.completeOperation externals.acp actor.asStr
        ⟨request.id.bytes, digest, actor.asStr, submission.txHash,
          submission.signer, context.timestamp, result⟩)

def recordUse (issuer : Did) (claims : JwtClaims) : HubM AcpError Unit :=
  onVera invalidBearer
    (VeraModule.storeOrUpdateJwsToken externals.crypto.sha256 context token
      issuer claims.sub ⟨claims.iat, 0⟩ ⟨claims.exp, 0⟩)

/-- Run an authorized operation, keep its outcome and record the use of its
token; a failure undoes all of it. -/
def performDelegated (digest : Bytes) (actor issuer : Did)
    (claims : JwtClaims) (run : Did → HubM AcpError OperationResult) :
    HubM AcpError OperationResult :=
  Exec.restoring do
    let result ← run actor
    keepOutcome externals context submission digest actor claims.request result
    recordUse externals context token issuer claims
    pure result

/-- Check the token, answer a repeated request from its kept outcome, and run
any other one. -/
def withDelegation (scope : DelegationScope) (digest : Bytes)
    (read : OperationResult → Except String OperationResult)
    (run : Did → HubM AcpError OperationResult) :
    HubM AcpError OperationResult := do
  let caller ← Exec.ofExcept (AcpModule.parseIdentity submission.signer)
  let claims ← Exec.query fun hub =>
    (VeraModule.authorizeDelegation externals.crypto context caller token scope
      digest hub.vera).mapError invalidBearer
  let actor ← Exec.ofExcept (AcpModule.parseIdentity claims.actor)
  let issuer ← Exec.ofExcept (AcpModule.parseIdentity claims.iss)
  match claims.request with
  | none =>
    performDelegated externals context submission token digest actor issuer claims run
  | some request =>
    Exec.failIf (submission.txHash.length ≠ 32)
      (.state "missing authenticated submission identifier")
    match ← Exec.query fun hub =>
        AcpModule.operation externals.acp actor.asStr request.id.bytes hub.acp with
    | some record =>
      Exec.ofExcept (AcpModule.replayed read digest request.id.bytes record)
    | none =>
      performDelegated externals context submission token digest actor issuer claims run

def delegate (operation : DelegatedOperation) :
    HubM AcpError OperationResult := do
  Exec.ofExcept (operation.precheck externals submission)
  let worker ← Exec.ofExcept (AcpModule.parseIdentity submission.signer)
  withDelegation externals context submission token operation.scope
    (operation.digest externals) operation.readResult
    fun actor => body externals context submission actor worker operation

end Delegation

end Hub

end VeraHub.Vera

import VeraHub.Acp.Commands

/-!
# Decisions, expiry, delegation and whole runs

The rest of the module's public operations, and the states a module reaches by
any sequence of them.
-/

namespace VeraHub.Acp

open VeraHub.Zanzibar VeraHub.Permission

/-! ## Access decisions -/

/-- Exact operation identity expected by a decision consumer. -/
structure DecisionRequest where
  deploymentId : UInt64
  policyId : String
  creator : String
  creatorSequence : UInt64
  request : AccessRequest
deriving DecidableEq

namespace DecisionRequest

def fields (expected : DecisionRequest) : List String :=
  [expected.policyId, expected.creator, expected.request.actor.did.asStr] ++
    expected.request.operations.flatMap fun operation =>
      [operation.object.resource, operation.object.id, operation.permission]

def encoded (expected : DecisionRequest) : Bytes :=
  leBytes expected.deploymentId ++ borshString expected.policyId ++
    borshString expected.creator ++ leBytes expected.creatorSequence ++
      borshOperations expected.request.operations ++ borshString expected.request.actor.did.asStr

def id (sha256 : Bytes → Bytes) (expected : DecisionRequest) :
    Except AcpError String :=
  if expected.policyId = "" ∨ expected.creator = "" ∨ expected.request.operations = [] then
    .error (.invalidAccessRequest "policy, creator and operations must be nonempty")
  else if expected.request.operations.length > 64 ∨
      (expected.fields.map fun field => (utf8 field).length).sum > 64 * 1024 then
    .error (.invalidAccessRequest "access decision request exceeds limits")
  else if expected.encoded.length > 64 * 1024 then
    .error (.invalidAccessRequest "access decision request exceeds byte limit")
  else
    .ok (hexText (sha256 (utf8 "vera/access-decision/v1" ++ [0] ++ expected.encoded)))

end DecisionRequest

def permissionReadLimits : ReadLimits where
  reads := 256
  records := 4096
  bytes := 1024 * 1024

namespace AcpModule

/-- Check the operations of a request in order; the first that is denied or
fails is reported. -/
def grantOperations (engine : PermissionEngine Capture) (policyId : String)
    (actor : Did) : List Operation → Exec Capture AcpError Unit
  | [] => pure ()
  | operation :: rest => fun capture =>
    match (engine.check
        ⟨policyId, operation.object.resource, operation.object.id,
          operation.permission, actor⟩).run capture with
    | (.error error, capture) =>
      (.error (.state s!"permission evaluation failed: {error.text}"), capture)
    | (.ok false, capture) =>
      (.error (.unauthorized
        (s!"actor {actor.asStr} denied {operation.permission} on " ++
          s!"{operation.object.resource}:{operation.object.id}")),
        capture)
    | (.ok true, capture) =>
      (grantOperations engine policyId actor rest).run capture

section Decisions

variable (externals : Externals)

/-- Pin one bounded module snapshot for every operation in the request. -/
def permissionEngine (policy : Policy) (module : AcpModule) :
    PermissionEngine Capture :=
  accessEngine externals.hashing externals.codec (readCapture externals.codec module.store) policy

/-- Evaluate an access check and persist the decision. -/
def checkAccess (creator : Did) (policyId : String) (request : AccessRequest)
    (block : BlockExecCtx) (tx : TxExecCtx) : AcpM AccessDecision := do
  Exec.failIf
    (tx.signer ≠ creator.asStr ∨ block.timestamp.blockHeight = 0 ∨ block.timestamp.seconds = 0)
    (.invalidAccessRequest "invalid decision execution context")
  let expected : DecisionRequest :=
    ⟨block.deploymentId, policyId, creator.asStr, tx.sequence, request⟩
  let decisionId ← Exec.ofExcept (expected.id externals.hashing.sha256)
  let policy ← Exec.query (cachedPolicy policyId)
  Exec.query fun module =>
    ((grantOperations (module.permissionEngine externals policy) policyId
      request.actor.did request.operations).run (Capture.new permissionReadLimits)).1
  let decision : AccessDecision :=
    { id := decisionId
      policyId := policyId
      creator := creator.asStr
      creatorAccSequence := tx.sequence
      operations := request.operations
      actor := request.actor.did.asStr
      params := ⟨100, 50, 100⟩
      creationTime := block.timestamp
      issuedHeight := block.timestamp.blockHeight }
  put (accessDecisionKey decision.id) (.decision decision)
  pure decision

end Decisions

/-! ## Parameters -/

def setParams (params : AcpParams) : AcpM Unit :=
  put paramsKey (.params params)

/-! ## Commitment expiry -/

def expiryBatchSize : Nat :=
  128

/-- The commitment of an index entry, marked as expired, or nothing when its
deadline does not lie before the current value. -/
def expiredEntry (start : Bytes) (current : UInt64) (module : AcpModule)
    (index : Bytes) (value : StoredValue) :
    Except AcpError (Option RegistrationsCommitment) :=
  if index.length ≠ start.length + 16 ∨ value.isEmpty = false then
    .error (.state "invalid commitment expiry index")
  else if beBytes current ≤ (index.drop start.length).take 8 then
    .ok none
  else
    match fromBeBytes (index.drop (start.length + 8)) with
    | none => .error (.state "invalid commitment expiry identifier")
    | some id =>
      match getCommitmentById id module with
      | .error error => .error error
      | .ok none => .error (.state "expiry commitment missing")
      | .ok (some record) =>
        if record.expired = true ∨ commitmentExpiryKey record ≠ index then
          .error (.state "commitment expiry index mismatch")
        else
          .ok (some { record with expired := true })

/-- The expired commitments of an index; it is in deadline order, so a later
deadline ends the scan. -/
def collectExpired (start : Bytes) (current : UInt64) (module : AcpModule) :
    List (Bytes × StoredValue) → Except AcpError (List RegistrationsCommitment)
  | [] => .ok []
  | (index, value) :: rest =>
    match expiredEntry start current module index value with
    | .error error => .error error
    | .ok none => .ok []
    | .ok (some marked) =>
      match collectExpired start current module rest with
      | .error error => .error error
      | .ok others => .ok (marked :: others)

def expiredBatch (start : Bytes) (current : UInt64) (module : AcpModule) :
    Except AcpError (List RegistrationsCommitment) :=
  collectExpired start current module ((module.scan start).take expiryBatchSize)

def updateCommitments : List RegistrationsCommitment → AcpM Unit
  | [] => pure ()
  | commitment :: rest => do
      updateCommitment commitment
      updateCommitments rest

def expireCommitments (now : Timestamp) :
    AcpM (List RegistrationsCommitment) := do
  let bySeconds ← Exec.query (expiredBatch secondsPrefix now.seconds)
  let byHeight ← Exec.query (expiredBatch heightPrefix now.blockHeight)
  updateCommitments (bySeconds ++ byHeight)
  pure (bySeconds ++ byHeight)

/-! ## Operation outcomes -/

def defaultOperationBytes : UInt64 :=
  64 * 1024 * 1024

def maxOperationRecordBytes : Nat :=
  1024 * 1024

def operationPruneLimit : Nat :=
  128

section Operations

variable (externals : Externals)

/-- Record key of an operation; equivalent key encodings of an actor share one
name space. -/
def operationKey (actor : String) (id : Bytes) : Except AcpError Bytes := do
  match Did.new actor with
  | .error error => .error (.state error.text)
  | .ok _ =>
    let canonical ←
      if startsWith actor didKeyPrefix then
        match externals.canonicalIssuer actor with
        | .ok issuer => .ok issuer
        | .error message => .error (.state message)
      else
        .ok actor
    .ok (operationPrefix ++
      externals.hashing.sha256 (utf8 "vera/operation-actor/v1" ++ [0] ++ utf8 canonical) ++ id)

def operationExpiryKey (id key : Bytes) : Bytes :=
  operationExpiryPrefix ++ id.take 8 ++ key.drop operationPrefix.length

def operationBytes : AcpModule → Except AcpError UInt64 :=
  readCounter operationBytesKey "invalid operation storage counter"

def operationBudget (module : AcpModule) : Except AcpError UInt64 :=
  match module.store.get operationBudgetKey with
  | none => .ok defaultOperationBytes
  | some value =>
    match value.asCounter with
    | some bytes => .ok bytes
    | none => .error (.state "invalid operation storage budget")

def setOperationBudget (bytes : UInt64) : AcpM Unit := do
  let tooSmall := AcpError.state "operation budget is below the record limit or retained usage"
  Exec.failIf (bytes.toNat < maxOperationRecordBytes) tooSmall
  let retained ← Exec.query operationBytes
  Exec.failIf (bytes < retained) tooSmall
  put operationBudgetKey (.counter bytes)

def operation (actor : String) (id : Bytes) (module : AcpModule) :
    Except AcpError (Option OperationRecord) := do
  let key ← operationKey externals actor id
  match module.store.get key with
  | none => .ok none
  | some value =>
    match value.decodeOperation with
    | .error message => .error (.state message)
    | .ok record => .ok (some record)

def retainedWith (added : Nat) (module : AcpModule) :
    Except AcpError UInt64 := do
  if added > maxOperationRecordBytes then
    .error (.state "operation outcome exceeds the record limit")
  else
    let bytes ← operationBytes module
    if 2 ^ 64 ≤ bytes.toNat + added then
      .error (.state "operation storage counter overflow")
    else
      let retained := UInt64.ofNat (bytes.toNat + added)
      let budget ← operationBudget module
      if budget < retained then
        .error (.state "operation outcome storage budget reached")
      else
        .ok retained

def completeOperation (actor : String) (record : OperationRecord) :
    AcpM Unit := do
  let key ← Exec.ofExcept (operationKey externals actor record.id)
  let retained ← Exec.query (retainedWith (externals.encodedLength (.operation record)))
  put key (.operation record)
  put (operationExpiryKey record.id key) (.reference key)
  put operationBytesKey (.counter retained)

def expiryOf (index : Bytes) : Bytes :=
  (index.drop operationExpiryPrefix.length).take 8

/-- Whether an expiry entry and the record key it holds belong together. -/
def wellFormedReference (index key : Bytes) : Bool :=
  index.length == operationExpiryPrefix.length + 72 &&
    key.length == operationPrefix.length + 64 &&
      operationPrefix.isPrefixOf key &&
        index.drop (operationExpiryPrefix.length + 8) == key.drop operationPrefix.length &&
          expiryOf index == (key.drop (operationPrefix.length + 32)).take 8

/-- The record key of an expiry entry, with the bytes to remove up to it, or
nothing when its deadline has not passed. -/
def expiredOutcome (now : UInt64) (module : AcpModule) (index : Bytes)
    (value : StoredValue) (removed : Nat) : Except AcpError (Option (Bytes × Nat)) :=
  if (expiryOf index).length < 8 then
    .error (.state "invalid operation expiry index")
  else if beBytes now < expiryOf index then
    .ok none
  else
    match value with
    | .reference key =>
      if wellFormedReference index key = false then
        .error (.state "invalid operation expiry entry")
      else
        match module.store.get key with
        | none =>
          .error (.state "operation outcome missing from expiry index")
        | some record =>
          let total := removed + externals.encodedLength record
          if 2 ^ 64 ≤ total then
            .error (.state "operation storage counter overflow")
          else
            .ok (some (key, total))
    | _ => .error (.state "invalid operation expiry entry")

/-- The outcomes past their deadline, with the bytes they take. -/
def collectOutcomes (now : UInt64) (module : AcpModule) :
    List (Bytes × StoredValue) → Nat → Except AcpError (List (Bytes × Bytes) × Nat)
  | [], removed => .ok ([], removed)
  | (index, value) :: rest, removed =>
    match expiredOutcome externals now module index value removed with
    | .error error => .error error
    | .ok none => .ok ([], removed)
    | .ok (some (key, total)) =>
      match collectOutcomes now module rest total with
      | .error error => .error error
      | .ok (entries, all) => .ok ((index, key) :: entries, all)

/-- The keys to delete and the bytes that stay, if anything is past its
deadline. -/
def prunedOutcomes (now : UInt64) (module : AcpModule) :
    Except AcpError (Option (List Bytes × UInt64)) :=
  match collectOutcomes externals now module
      ((module.scan operationExpiryPrefix).take operationPruneLimit) 0 with
  | .error error => .error error
  | .ok (expired, removed) =>
    if expired = [] then
      .ok none
    else
      match operationBytes module with
      | .error error => .error error
      | .ok bytes =>
        if bytes.toNat < removed then
          .error (.state "operation storage counter underflow")
        else
          .ok (some (expired.flatMap fun entry => [entry.2, entry.1],
            UInt64.ofNat (bytes.toNat - removed)))

def pruneOperations (now : UInt64) : AcpM Unit := do
  match ← Exec.query (prunedOutcomes externals now) with
  | none => pure ()
  | some (keys, retained) =>
    deleteAll keys
    put operationBytesKey (.counter retained)

/-- End-of-block hook: prune outcomes and flag expired commitments. -/
def endBlocker (block : BlockExecCtx) :
    AcpM (List RegistrationsCommitment) := do
  pruneOperations externals block.timestamp.seconds
  expireCommitments block.timestamp

end Operations

/-! ## Delegation -/

/-- The claims of an authorized token that the module uses. -/
structure Claims where
  actor : String
  iss : String
  request : Option Bytes

/-- What the token module answers for one delegated call: whether it authorizes
the token, and whether recording its use succeeds. -/
structure Delegation where
  claims : Except AcpError Claims
  recorded : Except AcpError Unit

def restoring {α : Type} (body : AcpM α) : AcpM α :=
  fun module =>
    match body.run module with
    | (.ok value, final) => (.ok value, final)
    | (.error failure, _) => (.error failure, module)

def parseIdentity (text : String) : Except AcpError Did :=
  match Did.new text with
  | .ok did => .ok did
  | .error error => .error (.invalidBearerToken error.text)

section Delegated

variable (externals : Externals) {α : Type} (toResult : α → OperationResult)
  (fromResult : OperationResult → Except String α)

/-- Run a delegated operation and keep its outcome; on failure nothing is
kept. -/
def performDelegated (context : BlockExecCtx) (submission : TxExecCtx)
    (delegation : Delegation) (digest : Bytes) (actor : Did)
    (request : Option Bytes) (body : Did → AcpM α) : AcpM α :=
  restoring do
    let result ← body actor
    match request with
    | none =>
      Exec.ofExcept delegation.recorded
      pure result
    | some id =>
      completeOperation externals actor.asStr
        ⟨id, digest, actor.asStr, submission.txHash, submission.signer,
          context.timestamp, toResult result⟩
      Exec.ofExcept delegation.recorded
      pure result

/-- The outcome of an operation that was already executed. -/
def replayed (digest id : Bytes) (record : OperationRecord) :
    Except AcpError α :=
  if record.id ≠ id ∨ record.digest ≠ digest then
    .error (.invalidBearerToken "operation identity was used for different arguments")
  else
    match fromResult record.result with
    | .ok result => .ok result
    | .error message => .error (.state message)

def withDelegation (context : BlockExecCtx) (submission : TxExecCtx)
    (delegation : Delegation) (digest : Bytes) (body : Did → AcpM α) :
    AcpM α := do
  let _caller ← Exec.ofExcept (parseIdentity submission.signer)
  let claims ← Exec.ofExcept delegation.claims
  let actor ← Exec.ofExcept (parseIdentity claims.actor)
  let _issuer ← Exec.ofExcept (parseIdentity claims.iss)
  match claims.request with
  | none =>
    performDelegated externals toResult context submission delegation digest actor none body
  | some id =>
    Exec.failIf (submission.txHash.length ≠ 32)
      (.state "missing authenticated submission identifier")
    match ← Exec.query (operation externals actor.asStr id) with
    | some record => Exec.ofExcept (replayed fromResult digest id record)
    | none =>
      performDelegated externals toResult context submission delegation digest actor (some id) body

end Delegated

section Bearer

variable (externals : Externals)

/-- Create a policy owned by the actor authorizing the submitting worker. -/
def bearerCreatePolicy (context : BlockExecCtx) (submission : TxExecCtx)
    (delegation : Delegation) (digest : Bytes) (policy : String)
    (marshalType : PolicyMarshalingType) : AcpM PolicyRecord := do
  Exec.failIf (submission.txHash.length ≠ 32) (.state "missing authenticated submission identifier")
  withDelegation externals .policy (fun result =>
      match result with
      | .policy record => .ok record
      | _ => .error "invalid type")
    context submission delegation digest fun actor =>
      createPolicyWithMetadata externals policy marshalType
        ⟨context.timestamp, submission.txHash, submission.signer, actor.asStr⟩

/-- Edit a policy using the actor's ownership and the worker's delegation. -/
def bearerEditPolicy (context : BlockExecCtx) (submission : TxExecCtx)
    (delegation : Delegation) (digest : Bytes) (policyId policy : String)
    (marshalType : PolicyMarshalingType) : AcpM (Nat × PolicyRecord) :=
  withDelegation externals (fun edited => .edited edited.1 edited.2) (fun result =>
      match result with
      | .edited removed record => .ok (removed, record)
      | _ => .error "invalid type")
    context submission delegation digest fun actor =>
      editPolicy externals actor policyId policy marshalType

def bearerPolicyCmd (context : BlockExecCtx) (submission : TxExecCtx)
    (delegation : Delegation) (digest : Bytes) (policyId : String)
    (cmd : PolicyCmd) : AcpM PolicyCmdResult :=
  withDelegation externals .command (fun result =>
      match result with
      | .command result => StoredValue.decodeCommand result
      | _ => .error "invalid type")
    context submission delegation digest fun actor =>
      executePolicyCmd externals actor policyId cmd context submission

def bearerCheckAccess (context : BlockExecCtx) (submission : TxExecCtx)
    (delegation : Delegation) (digest : Bytes) (policyId : String)
    (request : AccessRequest) : AcpM AccessDecision := do
  let worker ← Exec.ofExcept (parseIdentity submission.signer)
  withDelegation externals .decision (fun result =>
      match result with
      | .decision decision => .ok decision
      | _ => .error "invalid type")
    context submission delegation digest fun _ =>
      checkAccess externals worker policyId request context submission

/-- A delegated operation of another module, which keeps its outcome here. -/
def foreignDelegated (context : BlockExecCtx) (submission : TxExecCtx)
    (delegation : Delegation) (digest : Bytes)
    (outcome : Except AcpError OperationResult) : AcpM OperationResult :=
  withDelegation externals (fun result => result) .ok context submission
    delegation digest fun _ => Exec.ofExcept outcome

end Bearer

end AcpModule

/-! ## Runs -/

/-- A call of a public operation. -/
inductive AcpCall where
  | createPolicy (creator : Did) (policy : String) (marshalType : PolicyMarshalingType)
  | editPolicy (creator : Did) (policyId policy : String) (marshalType : PolicyMarshalingType)
  | checkAccess (creator : Did) (policyId : String) (request : AccessRequest)
      (block : BlockExecCtx) (tx : TxExecCtx)
  | directPolicyCmd (creator : Did) (policyId : String) (cmd : PolicyCmd)
  | executePolicyCmd (actor : Did) (policyId : String) (cmd : PolicyCmd)
      (block : BlockExecCtx) (submission : TxExecCtx)
  | endBlocker (block : BlockExecCtx)
  | setParams (params : AcpParams)
  | setOperationBudget (bytes : UInt64)
  | bearerCreatePolicy (context : BlockExecCtx) (submission : TxExecCtx)
      (delegation : AcpModule.Delegation) (digest : Bytes) (policy : String)
      (marshalType : PolicyMarshalingType)
  | bearerEditPolicy (context : BlockExecCtx) (submission : TxExecCtx)
      (delegation : AcpModule.Delegation) (digest : Bytes)
      (policyId policy : String) (marshalType : PolicyMarshalingType)
  | bearerPolicyCmd (context : BlockExecCtx) (submission : TxExecCtx)
      (delegation : AcpModule.Delegation) (digest : Bytes) (policyId : String) (cmd : PolicyCmd)
  | bearerCheckAccess (context : BlockExecCtx) (submission : TxExecCtx)
      (delegation : AcpModule.Delegation) (digest : Bytes)
      (policyId : String) (request : AccessRequest)
  | foreignDelegated (context : BlockExecCtx) (submission : TxExecCtx)
      (delegation : AcpModule.Delegation) (digest : Bytes)
      (outcome : Except AcpError OperationResult)

namespace AcpModule

variable (externals : Externals)

/-- The state a call leaves, whether it succeeds or fails. -/
def perform (module : AcpModule) (call : AcpCall) : AcpModule :=
  match call with
  | .createPolicy creator policy marshalType =>
    ((createPolicy externals creator policy marshalType).run module).2
  | .editPolicy creator policyId policy marshalType =>
    ((editPolicy externals creator policyId policy marshalType).run module).2
  | .checkAccess creator policyId request block tx =>
    ((checkAccess externals creator policyId request block tx).run module).2
  | .directPolicyCmd creator policyId cmd =>
    ((directPolicyCmd externals creator policyId cmd).run module).2
  | .executePolicyCmd actor policyId cmd block submission =>
    ((executePolicyCmd externals actor policyId cmd block submission).run module).2
  | .endBlocker block => ((endBlocker externals block).run module).2
  | .setParams params => ((setParams params).run module).2
  | .setOperationBudget bytes => ((setOperationBudget bytes).run module).2
  | .bearerCreatePolicy context submission delegation digest policy marshalType =>
    ((bearerCreatePolicy externals context submission delegation digest
      policy marshalType).run module).2
  | .bearerEditPolicy context submission delegation digest policyId policy marshalType =>
    ((bearerEditPolicy externals context submission delegation digest
      policyId policy marshalType).run module).2
  | .bearerPolicyCmd context submission delegation digest policyId cmd =>
    ((bearerPolicyCmd externals context submission delegation digest policyId cmd).run module).2
  | .bearerCheckAccess context submission delegation digest policyId request =>
    ((bearerCheckAccess externals context submission delegation digest
      policyId request).run module).2
  | .foreignDelegated context submission delegation digest outcome =>
    ((foreignDelegated externals context submission delegation digest outcome).run module).2

def performAll (module : AcpModule) (calls : List AcpCall) : AcpModule :=
  calls.foldl (perform externals) module

end AcpModule

end VeraHub.Acp

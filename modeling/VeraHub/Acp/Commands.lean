import VeraHub.Acp.Module

/-!
# Policy commands

Relationships, object registrations and registration commitments change
through commands.  A command runs without a context, or with the metadata of an
authenticated submission, in which case its records are rewritten afterwards.
-/

namespace VeraHub.Acp

open VeraHub.Zanzibar

/-! ## Merkle proofs -/

section Merkle

variable (sha256 : Bytes → Bytes)

def registrationLeaf (policy : String) (object : Object) (actor : String) :
    Bytes :=
  utf8 "vera/registration-leaf/v1" ++ [0] ++ borshString policy ++
    borshString object.resource ++ borshString object.id ++ borshString actor

def computeLeafHash (data : Bytes) : Bytes :=
  sha256 (0 :: data)

def computeInnerHash (left right : Bytes) : Bytes :=
  sha256 (1 :: left ++ right)

/-- Hash upwards while more than one node is left; sixty-four rounds halve any
64-bit width to one. -/
def climbMerkle : Nat → Bytes → (index width : Nat) → List Bytes → Option (Bytes × List Bytes)
  | 0, current, _, _, siblings => some (current, siblings)
  | rounds + 1, current, index, width, siblings =>
    if width ≤ 1 then
      some (current, siblings)
    else if index % 2 = 1 then
      match siblings with
      | [] => none
      | sibling :: rest =>
        climbMerkle rounds (computeInnerHash sha256 sibling current)
          (index / 2) ((width + 1) / 2) rest
    else if index + 1 < width then
      match siblings with
      | [] => none
      | sibling :: rest =>
        climbMerkle rounds (computeInnerHash sha256 current sibling)
          (index / 2) ((width + 1) / 2) rest
    else
      climbMerkle rounds current (index / 2) ((width + 1) / 2) siblings

def verifyMerkleProof (root : Bytes) (proof : RegistrationProof) (leafData : Bytes) : Bool :=
  if root.length ≠ 32 ∨ proof.leafCount = 0 ∨
      proof.leafCount ≤ proof.leafIndex ∨ 64 < proof.merkleProof.length ∨
        (proof.merkleProof.any fun sibling => sibling.length ≠ 32) then
    false
  else
    match climbMerkle sha256 64 (computeLeafHash sha256 leafData)
        proof.leafIndex.toNat proof.leafCount.toNat proof.merkleProof with
    | some (current, []) => current = root
    | _ => false

end Merkle

namespace AcpModule

/-! ## Commitments and amendments -/

/-- Delete the index entries of a commitment that is replaced. -/
def withoutIndexes (previous : Option RegistrationsCommitment) (module : AcpModule) : AcpModule :=
  match previous with
  | none => module
  | some old =>
    (module.withoutStored (commitmentExpiryKey old)).withoutStored
      (commitmentByCommitmentIndexKey old.commitment old.id)

/-- Index a commitment by its deadline until it expires. -/
def withDeadline (commitment : RegistrationsCommitment) (module : AcpModule) : AcpModule :=
  if commitment.expired then module
  else module.withStored (commitmentExpiryKey commitment) .empty

def withCommitment (previous : Option RegistrationsCommitment)
    (commitment : RegistrationsCommitment) (module : AcpModule) : AcpModule :=
  ((withDeadline commitment (withoutIndexes previous module)).withStored
      (commitmentByCommitmentIndexKey commitment.commitment commitment.id) .empty).withStored
    (commitmentKey commitment.id) (.commitment commitment)

def updateCommitment (commitment : RegistrationsCommitment) : AcpM Unit := do
  let previous ← Exec.query (getCommitmentById commitment.id)
  Exec.modify (withCommitment previous commitment)

def createCommitment (commitment : RegistrationsCommitment) :
    AcpM RegistrationsCommitment := do
  let next ← Exec.query
    (nextCounter commitmentCounterKey "invalid record counter" "record counter exhausted")
  let existing ← Exec.gets fun module => module.store.get (commitmentKey next)
  Exec.failIf existing.isSome (.state "commitment identifier already exists")
  let created := { commitment with id := next }
  updateCommitment created
  put commitmentCounterKey (.counter next)
  pure created

/-- Store a new amendment with its counter and index entry. -/
def withAmendment (event : AmendmentEvent) (module : AcpModule) : AcpModule :=
  ((module.withStored amendmentEventCounterKey (.counter event.id)).withStored
      (amendmentEventKey event.id) (.amendment event)).withStored
    (amendmentEventPolicyIndexKey event.policyId event.id) .empty

def createAmendmentEvent (event : AmendmentEvent) : AcpM AmendmentEvent := do
  let next ← Exec.query
    (nextCounter amendmentEventCounterKey "invalid record counter" "record counter exhausted")
  let existing ← Exec.gets fun module =>
    module.store.get (amendmentEventKey next)
  Exec.failIf existing.isSome (.state "amendment identifier already exists")
  let created := { event with id := next }
  Exec.modify (withAmendment created)
  pure created

def updateAmendmentEvent (event : AmendmentEvent) : AcpM Unit :=
  put (amendmentEventKey event.id) (.amendment event)

/-! ## Commands without a context -/

section Commands

variable (externals : Externals)

/-- The first relation of a list that the creator holds live. -/
def holdsLive (creator : Did) (policyId resource objectId : String)
    (module : AcpModule) : List String → Except AcpError Bool
  | [] => .ok false
  | relation :: rest => do
      match ← getRelationship externals policyId
          ⟨resource, objectId, relation, .entity creator⟩ module with
      | some record =>
        if record.archived then
          holdsLive creator policyId resource objectId module rest
        else
          .ok true
      | none => holdsLive creator policyId resource objectId module rest

/-- Policy owners, object owners and holders of a managing relation manage a
relation. -/
def isAuthorizedToManage (creator : Did) (policyId : String) (policy : Policy)
    (resource objectId relation : String) (module : AcpModule) :
    Except AcpError Bool := do
  let record ← getPolicyRecord policyId module
  if (record.any fun found =>
      found.metadata.ownerDid = creator.asStr) = true then
    .ok true
  else
    holdsLive externals creator policyId resource objectId module
      ("owner" :: policy.getManagersForRelation resource relation)

/-- Relationships on declared relations and on actors are validated; other
relation names are accepted. -/
def validateDeclared (policy : Policy) (relationship : Relationship) :
    Except AcpError Unit :=
  if (policy.getRelation relationship.resource relationship.relation).isSome ∨
      policy.isActor relationship.resource = true then
    match relationship.validate policy with
    | .ok () => .ok ()
    | .error error => .error (.invalidAccessRequest error.text)
  else
    .ok ()

def cmdSetRelationship (creator : Did) (policyId : String)
    (relationship : Relationship) : AcpM PolicyCmdResult := do
  let policy ← Exec.query (cachedPolicy policyId)
  Exec.failIf (relationship.relation = "owner") (.unauthorized "the owner relation cannot be set")
  Exec.ofExcept (validateDeclared policy relationship)
  let authorized ← Exec.query
    (isAuthorizedToManage externals creator policyId policy
      relationship.resource relationship.objectId relationship.relation)
  Exec.failIf (authorized = false)
    (.unauthorized (s!"{creator.asStr} is not authorized to set relation " ++
      s!"'{relationship.relation}' on " ++ s!"'{relationship.resource}/{relationship.objectId}'"))
  match ← Exec.query (getRelationship externals policyId relationship) with
  | some record => pure (.setRelationship true record)
  | none =>
    let record : RelationshipRecord := ⟨policyId, relationship, false, plainMetadata creator⟩
    setRelationship externals policyId record
    pure (.setRelationship false record)

def cmdDeleteRelationship (creator : Did) (policyId : String)
    (relationship : Relationship) : AcpM PolicyCmdResult := do
  let policy ← Exec.query (cachedPolicy policyId)
  Exec.failIf (relationship.relation = "owner")
    (.unauthorized "the owner relation cannot be deleted")
  let authorized ← Exec.query
    (isAuthorizedToManage externals creator policyId policy
      relationship.resource relationship.objectId relationship.relation)
  Exec.failIf (authorized = false)
    (.unauthorized (s!"{creator.asStr} is not authorized to delete " ++
      s!"relation '{relationship.relation}' on " ++
        s!"'{relationship.resource}/{relationship.objectId}'"))
  let existing ← Exec.query (getRelationship externals policyId relationship)
  deleteRelationship externals policyId relationship
  pure (.deleteRelationship existing.isSome)

/-- Archiving preserves ownership; only unarchive may reactivate it. -/
def ensureObjectUnregistered (policyId : String) (object : Object)
    (module : AcpModule) : Except AcpError Unit :=
  match module.scan
      (relationshipStoragePrefix policyId (relationPrefix object.resource object.id "owner")) with
  | [] => .ok ()
  | _ => .error (.objectAlreadyRegistered object.resource object.id)

def validateRegistrationObject (policyId : String) (object : Object)
    (module : AcpModule) : Except AcpError Unit := do
  let policy ← cachedPolicy policyId module
  if policy.isActor object.resource = true then
    .error (.unauthorized "actor records cannot be registered as objects")
  else if (policy.getResource object.resource).isNone then
    .error (.invalidAccessRequest s!"resource '{object.resource}' not defined in policy")
  else
    .ok ()

def ownerRelationship (object : Object) (actor : Did) : Relationship :=
  ⟨object.resource, object.id, "owner", .entity actor⟩

def ownerRecord (policyId : String) (object : Object) (actor : Did) :
    RelationshipRecord :=
  ⟨policyId, ownerRelationship object actor, false, plainMetadata actor⟩

def cmdRegisterObject (creator : Did) (policyId : String) (object : Object) :
    AcpM PolicyCmdResult := do
  Exec.query (validateRegistrationObject policyId object)
  Exec.query (ensureObjectUnregistered policyId object)
  let record := ownerRecord policyId object creator
  setRelationship externals policyId record
  pure (.registerObject record)

def registeredOwner (policyId : String) (object : Object)
    (module : AcpModule) : Except AcpError RelationshipRecord :=
  if (module.cached policyId).isNone then
    .error (.policyNotFound policyId)
  else do
    match ← registrationOwnerRecord externals policyId object module with
    | some record => .ok record
    | none => .error (.objectNotRegistered object.resource object.id)

def cmdArchiveObject (creator : Did) (policyId : String) (object : Object) :
    AcpM PolicyCmdResult := do
  let owner ← Exec.query (registeredOwner externals policyId object)
  if owner.archived then
    pure (.archiveObject true 0)
  else do
    Exec.failIf (owner.metadata.ownerDid ≠ creator.asStr)
      (.unauthorized (s!"{creator.asStr} is not the owner of " ++
        s!"'{object.resource}/{object.id}'"))
    let keys ← Exec.query fun module =>
      selectKeys externals policyId "relationship record does not match its key"
        (fun relationship =>
          relationship.resource = object.resource && relationship.objectId = object.id)
        (module.scan (relationshipStoragePrefix policyId (objectPrefix object.resource object.id)))
    deleteAll keys
    setRelationship externals policyId { owner with archived := true }
    pure (.archiveObject true keys.length)

def cmdUnarchiveObject (creator : Did) (policyId : String) (object : Object) :
    AcpM PolicyCmdResult := do
  let owner ← Exec.query (registeredOwner externals policyId object)
  Exec.failIf (owner.metadata.ownerDid ≠ creator.asStr)
    (.unauthorized (s!"{creator.asStr} is not the previous owner of " ++
      s!"'{object.resource}/{object.id}'"))
  let record := { owner with archived := false }
  put (relationshipStoragePrefix policyId
      (relationshipStorageKey externals.hashing record.relationship)) (.relationship record)
  pure (.unarchiveObject record owner.archived)

def cmdCommitRegistrations (creator : Did) (policyId : String)
    (commitment : Bytes) : AcpM PolicyCmdResult := do
  let _policy ← Exec.query (cachedPolicy policyId)
  Exec.failIf (commitment.length ≠ 32)
    (.invalidProof s!"commitment must be exactly 32 bytes, got {commitment.length}")
  let params ← Exec.query getParams
  let created ← createCommitment
    ⟨0, policyId, commitment, false, params.registrationsCommitmentValidity, plainMetadata creator⟩
  pure (.commitRegistrations created)

/-- The commitment a reveal refers to, if the proof is good for the actor. -/
def revealedCommitment (creator : Did) (policyId : String)
    (commitmentId : UInt64) (proof : RegistrationProof) (module : AcpModule) :
    Except AcpError RegistrationsCommitment := do
  validateRegistrationObject policyId proof.object module
  match ← getCommitmentById commitmentId module with
  | none => .error (.commitmentNotFound commitmentId)
  | some commitment =>
    if commitment.expired then
      .error (.commitmentExpired commitmentId)
    else if commitment.policyId ≠ policyId then
      .error (.invalidProof "registration commitment belongs to another policy")
    else if verifyMerkleProof externals.hashing.sha256 commitment.commitment
        proof (registrationLeaf policyId proof.object creator.asStr) = false then
      .error (.invalidProof "Merkle proof verification failed")
    else
      .ok commitment

/-- The previous owner, when the commitment is not newer than the existing
registration. -/
def amendedOwner (commitment : RegistrationsCommitment)
    (existing : RelationshipRecord) : Except AcpError Did :=
  if commitment.metadata.creationTs.blockHeight > existing.metadata.creationTs.blockHeight then
    .error (.invalidProof "commitment is newer than the existing registration; cannot amend")
  else
    match Did.new existing.metadata.ownerDid with
    | .ok previous => .ok previous
    | .error _ => .error (.state "stored owner DID is invalid")

def cmdRevealRegistration (creator : Did) (policyId : String)
    (commitmentId : UInt64) (proof : RegistrationProof) :
    AcpM PolicyCmdResult := do
  let commitment ← Exec.query (revealedCommitment externals creator policyId commitmentId proof)
  match ← Exec.query (queryObjectOwner externals policyId proof.object) with
  | none =>
    Exec.query (ensureObjectUnregistered policyId proof.object)
    let record := ownerRecord policyId proof.object creator
    setRelationship externals policyId record
    pure (.revealRegistration record none)
  | some existing =>
    let previous ← Exec.ofExcept (amendedOwner commitment existing)
    let record := ownerRecord policyId proof.object creator
    let event ← createAmendmentEvent
      ⟨0, policyId, proof.object, ⟨creator⟩, ⟨previous⟩, commitmentId, false, plainMetadata creator⟩
    deleteRelationship externals policyId existing.relationship
    setRelationship externals policyId record
    pure (.revealRegistration record (some event))

def cmdFlagHijackAttempt (creator : Did) (policyId : String)
    (eventId : UInt64) : AcpM PolicyCmdResult := do
  match ← Exec.query (getAmendmentEventById eventId) with
  | none => Exec.fail (.state s!"amendment event {eventId} not found")
  | some event =>
    Exec.failIf (event.policyId ≠ policyId)
      (.unauthorized "amendment event belongs to another policy")
    Exec.failIf (event.newOwner.did.asStr ≠ creator.asStr)
      (.unauthorized "only the new owner can flag a hijack attempt")
    let flagged := { event with hijackFlag := true }
    updateAmendmentEvent flagged
    pure (.flagHijackAttempt flagged)

def commandObjectId : PolicyCmd → Option String
  | .setRelationship relationship => some relationship.objectId
  | .deleteRelationship relationship => some relationship.objectId
  | .registerObject object => some object.id
  | .archiveObject object => some object.id
  | .unarchiveObject object => some object.id
  | .revealRegistration _ proof => some proof.object.id
  | .commitRegistrations _ => none
  | .flagHijackAttempt _ => none

def directPolicyCmd (creator : Did) (policyId : String) (cmd : PolicyCmd) :
    AcpM PolicyCmdResult := do
  Exec.failIf (commandObjectId cmd = some "") (.invalidAccessRequest "object ID must not be empty")
  match cmd with
  | .setRelationship relationship =>
    cmdSetRelationship externals creator policyId relationship
  | .deleteRelationship relationship =>
    cmdDeleteRelationship externals creator policyId relationship
  | .registerObject object =>
    cmdRegisterObject externals creator policyId object
  | .archiveObject object =>
    cmdArchiveObject externals creator policyId object
  | .unarchiveObject object =>
    cmdUnarchiveObject externals creator policyId object
  | .commitRegistrations commitment =>
    cmdCommitRegistrations creator policyId commitment
  | .revealRegistration commitmentId proof =>
    cmdRevealRegistration externals creator policyId commitmentId proof
  | .flagHijackAttempt eventId =>
    cmdFlagHijackAttempt creator policyId eventId

end Commands

/-! ## Commands with a context -/

section Context

variable (externals : Externals)

def validityPassed (validity : Duration) (issued now : Timestamp) : Bool :=
  match validity with
  | .seconds delta => now.seconds > saturatingAdd issued.seconds delta
  | .blocks delta => now.blockHeight > saturatingAdd issued.blockHeight delta

/-- The timestamp a command's records get: that of the commitment for a
reveal, and the block's otherwise. -/
def commandTimestamp (command : PolicyCmd) (block : BlockExecCtx)
    (module : AcpModule) : Except AcpError Timestamp :=
  match command with
  | .revealRegistration commitmentId _ => do
      match ← getCommitmentById commitmentId module with
      | none => .error (.commitmentNotFound commitmentId)
      | some commitment =>
        let issued := commitment.metadata.creationTs
        if issued.blockHeight = 0 ∨
            issued.blockHeight > block.timestamp.blockHeight ∨
              issued.seconds > block.timestamp.seconds then
          .error (.state "invalid registration commitment revision")
        else if commitment.expired ∨ validityPassed commitment.validity issued block.timestamp then
          .error (.commitmentExpired commitment.id)
        else
          .ok issued
  | _ => .ok block.timestamp

/-- Rewrite the records of a result with the metadata of the submission. -/
def recordContext (policyId : String) (metadata eventMetadata : RecordMetadata) :
    PolicyCmdResult → AcpM PolicyCmdResult
  | .registerObject record => do
      let record := { record with metadata := metadata }
      setRelationship externals policyId record
      pure (.registerObject record)
  | .setRelationship false record => do
      let record := { record with metadata := metadata }
      setRelationship externals policyId record
      pure (.setRelationship false record)
  | .commitRegistrations commitment => do
      let commitment := { commitment with metadata := metadata }
      updateCommitment commitment
      pure (.commitRegistrations commitment)
  | .revealRegistration record none => do
      let record := { record with metadata := metadata }
      setRelationship externals policyId record
      pure (.revealRegistration record none)
  | .revealRegistration record (some event) => do
      let record := { record with metadata := metadata }
      setRelationship externals policyId record
      let event := { event with metadata := eventMetadata }
      updateAmendmentEvent event
      pure (.revealRegistration record (some event))
  | result => pure result

/-- Execute an authenticated actor's command at the supplied finalized-order
context. -/
def executePolicyCmd (actor : Did) (policyId : String) (command : PolicyCmd)
    (block : BlockExecCtx) (submission : TxExecCtx) :
    AcpM PolicyCmdResult := do
  Exec.failIf
    (block.timestamp.blockHeight = 0 ∨ submission.txHash.length ≠ 32 ∨ submission.signer = "")
    (.state "invalid policy command execution context")
  let creationTs ← Exec.query (commandTimestamp command block)
  let result ← directPolicyCmd externals actor policyId command
  recordContext externals policyId ⟨creationTs, submission.txHash, submission.signer, actor.asStr⟩
    ⟨block.timestamp, submission.txHash, submission.signer, actor.asStr⟩ result

end Context

end AcpModule

end VeraHub.Acp

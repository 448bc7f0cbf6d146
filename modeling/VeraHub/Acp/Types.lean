import VeraHub.Library.Bytes
import VeraHub.Zanzibar.Types

/-!
# Records of the access control module
-/

namespace VeraHub.Acp

open VeraHub.Zanzibar

/-! ## Shared module types -/

/-- Wall-clock timestamp paired with block height. -/
structure Timestamp where
  seconds : UInt64
  blockHeight : UInt64
deriving DecidableEq, Repr

instance : Inhabited Timestamp :=
  ⟨⟨0, 0⟩⟩

/-- Block-level execution context, set once at the start of block
execution. -/
structure BlockExecCtx where
  genesisId : Bytes
  deploymentId : UInt64
  timestamp : Timestamp
deriving DecidableEq

/-- Per-transaction execution context of a module dispatch. -/
structure TxExecCtx where
  sequence : UInt64
  txHash : Bytes
  signer : String
deriving DecidableEq

/-- A duration in wall-clock seconds or in blocks. -/
inductive Duration where
  | seconds (count : UInt64)
  | blocks (count : UInt64)
deriving DecidableEq, Repr

/-! ## Records -/

/-- Metadata attached to any stored record. -/
structure RecordMetadata where
  creationTs : Timestamp
  txHash : Bytes
  txSigner : String
  ownerDid : String
deriving DecidableEq, Repr

/-- Policy serialization format. -/
inductive PolicyMarshalingType where
  | unknown
  | shortYaml
  | shortJson
deriving DecidableEq, Repr

/-- Reference to an object within a policy resource. -/
structure Object where
  resource : String
  id : String
deriving DecidableEq, Repr

/-- A single operation within an access request. -/
structure Operation where
  object : Object
  permission : String
deriving DecidableEq, Repr

/-- An actor identity. -/
structure Actor where
  did : Did
deriving DecidableEq

/-- A request to check whether an actor has permissions on objects. -/
structure AccessRequest where
  operations : List Operation
  actor : Actor
deriving DecidableEq

/-- A stored policy with metadata. -/
structure PolicyRecord where
  policy : Policy
  rawPolicy : String
  marshalType : PolicyMarshalingType
  metadata : RecordMetadata

/-- A relationship associated with its policy. -/
structure RelationshipRecord where
  policyId : String
  relationship : Relationship
  archived : Bool
  metadata : RecordMetadata
deriving DecidableEq

/-- Parameters governing access decision lifecycle timers. -/
structure DecisionParams where
  decisionExpirationDelta : UInt64
  proofExpirationDelta : UInt64
  ticketExpirationDelta : UInt64
deriving DecidableEq, Repr

/-- The result of evaluating an access check. -/
structure AccessDecision where
  id : String
  policyId : String
  creator : String
  creatorAccSequence : UInt64
  operations : List Operation
  actor : String
  params : DecisionParams
  creationTime : Timestamp
  issuedHeight : UInt64
deriving DecidableEq, Repr

/-- Proof that an object was included in a registration commitment. -/
structure RegistrationProof where
  object : Object
  merkleProof : List Bytes
  leafCount : UInt64
  leafIndex : UInt64
deriving DecidableEq, Repr

/-- A batch registration commitment submitted by an actor. -/
structure RegistrationsCommitment where
  id : UInt64
  policyId : String
  commitment : Bytes
  expired : Bool
  validity : Duration
  metadata : RecordMetadata
deriving DecidableEq, Repr

/-- Record of an ownership amendment event. -/
structure AmendmentEvent where
  id : UInt64
  policyId : String
  object : Object
  newOwner : Actor
  previousOwner : Actor
  commitmentId : UInt64
  hijackFlag : Bool
  metadata : RecordMetadata
deriving DecidableEq

/-- Module-level parameters. -/
structure AcpParams where
  policyCommandMaxExpirationDelta : UInt64
  registrationsCommitmentValidity : Duration
deriving DecidableEq, Repr

def AcpParams.default : AcpParams where
  policyCommandMaxExpirationDelta := 12 * 60 * 60
  registrationsCommitmentValidity := .seconds (10 * 60)

/-! ## Commands -/

/-- A command to execute against a policy's relation graph. -/
inductive PolicyCmd where
  | setRelationship (relationship : Relationship)
  | deleteRelationship (relationship : Relationship)
  | registerObject (object : Object)
  | archiveObject (object : Object)
  | unarchiveObject (object : Object)
  | commitRegistrations (commitment : Bytes)
  | revealRegistration (registrationsCommitmentId : UInt64) (proof : RegistrationProof)
  | flagHijackAttempt (eventId : UInt64)
deriving DecidableEq

/-- The result of executing a policy command. -/
inductive PolicyCmdResult where
  | setRelationship (recordExisted : Bool) (record : RelationshipRecord)
  | deleteRelationship (recordFound : Bool)
  | registerObject (record : RelationshipRecord)
  | archiveObject (found : Bool) (relationshipsRemoved : Nat)
  | unarchiveObject (record : RelationshipRecord) (relationshipModified : Bool)
  | commitRegistrations (registrationsCommitment : RegistrationsCommitment)
  | revealRegistration (record : RelationshipRecord) (event : Option AmendmentEvent)
  | flagHijackAttempt (event : AmendmentEvent)
deriving DecidableEq

/-! ## Errors -/

/-- Errors produced by the module. -/
inductive AcpError where
  | policyNotFound (id : String)
  | invalidPolicy (reason : String)
  | invalidAccessRequest (reason : String)
  | objectNotRegistered (resource objectId : String)
  | objectAlreadyRegistered (resource objectId : String)
  | commitmentNotFound (id : UInt64)
  | commitmentExpired (id : UInt64)
  | invalidProof (reason : String)
  | unauthorized (reason : String)
  | invalidBearerToken (reason : String)
  | state (message : String)
deriving DecidableEq, Repr

def AcpError.text : AcpError → String
  | .policyNotFound id => s!"policy not found: {id}"
  | .invalidPolicy reason => s!"invalid policy: {reason}"
  | .invalidAccessRequest reason => s!"invalid access request: {reason}"
  | .objectNotRegistered resource objectId =>
    s!"object not registered: {resource}/{objectId}"
  | .objectAlreadyRegistered resource objectId =>
    s!"object already registered: {resource}/{objectId}"
  | .commitmentNotFound id => s!"commitment not found: {id}"
  | .commitmentExpired id => s!"commitment expired: {id}"
  | .invalidProof reason => s!"invalid proof: {reason}"
  | .unauthorized reason => s!"unauthorized: {reason}"
  | .invalidBearerToken reason => s!"invalid bearer token: {reason}"
  | .state message => s!"state error: {message}"

end VeraHub.Acp

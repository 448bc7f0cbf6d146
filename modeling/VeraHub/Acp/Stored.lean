import VeraHub.Acp.PolicyYaml
import VeraHub.Acp.RecordStore

/-!
# Stored values

The module stores records as JSON or in a fixed binary format, counters as
eight bytes, index entries as empty values and one reference as the bytes of a
key.  Values are kept here in decoded form; decoding fails where the decoders
do.  The JSON decoder accepts objects and arrays nested up to a fixed depth,
and refuses a DID that its constructor refuses.
-/

namespace VeraHub.Acp

open VeraHub.Zanzibar

/-! ## Nesting of JSON documents -/

/-- The nesting of a list of parts: that of the deepest. -/
def deepest {α : Type} (nesting : α → Nat) (parts : List α) : Nat :=
  (parts.map nesting).foldr max 0

/-- Enumerations with fields are an object around their fields. -/
def expressionNesting : RelationExpression → Nat
  | .this => 0
  | .computedUserset _ => 2
  | .tupleToUserset _ _ => 2
  | .union exprs => 2 + operandsNesting exprs
  | .intersection exprs => 2 + operandsNesting exprs
  | .difference base subtract =>
    2 + max (expressionNesting base) (expressionNesting subtract)
where
  operandsNesting : List RelationExpression → Nat
    | [] => 0
    | expression :: rest =>
      max (expressionNesting expression) (operandsNesting rest)

def restrictionNesting : SubjectRestriction → Nat
  | .entity => 0
  | .entitySet _ _ => 2
  | .typedWildcard _ => 2
  | .actor => 0
  | .anyOf restrictions => 2 + alternativesNesting restrictions
  | .any => 0
where
  alternativesNesting : List SubjectRestriction → Nat
    | [] => 0
    | restriction :: rest =>
      max (restrictionNesting restriction) (alternativesNesting rest)

/-- A relation holds its expression, its restriction and a list of names. -/
def relationNesting (relation : Relation) : Nat :=
  1 + max (expressionNesting relation.expression)
    (max (relation.subjectRestriction.elim 0 restrictionNesting) 1)

def resourceNesting (resource : Resource) : Nat :=
  2 + deepest relationNesting resource.relations

/-- A policy holds its resources in a list, its actor and an attribute map. -/
def policyNesting (policy : Policy) : Nat :=
  1 + max (1 + deepest resourceNesting policy.resources)
    (max (policy.actor.elim 0 resourceNesting) 1)

/-- A policy record holds its policy, and metadata with a timestamp. -/
def policyRecordNesting (record : PolicyRecord) : Nat :=
  1 + max (policyNesting record.policy) 2

/-- The decoder starts with 128 levels and must keep one. -/
def jsonLimit : Nat :=
  127

/-! ## Operation outcomes -/

/-- The typed result kept with a finished operation; results of other modules
are kept as their encoding. -/
inductive OperationResult where
  | policy (record : PolicyRecord)
  | edited (removed : Nat) (record : PolicyRecord)
  | command (result : PolicyCmdResult)
  | decision (decision : AccessDecision)
  | foreign (nesting : Nat) (encoded : Bytes)

/-- Command results nest at most a record, its relationship and a subject with
fields below their own enumeration. -/
def resultNesting : OperationResult → Nat
  | .policy record => policyRecordNesting record
  | .edited _ record => 1 + policyRecordNesting record
  | .command _ => 6
  | .decision _ => 4
  | .foreign nesting _ => nesting

/-- Original successful outcome, retained until its execution deadline. -/
structure OperationRecord where
  id : Bytes
  digest : Bytes
  actor : String
  submission : Bytes
  worker : String
  revision : Timestamp
  result : OperationResult

/-! ## Values -/

inductive StoredValue where
  | policy (record : PolicyRecord)
  | relationship (record : RelationshipRecord)
  | decision (decision : AccessDecision)
  | commitment (record : RegistrationsCommitment)
  | amendment (event : AmendmentEvent)
  | params (params : AcpParams)
  | counter (value : UInt64)
  | operation (record : OperationRecord)
  | reference (key : Bytes)
  | empty

namespace StoredValue

def decodePolicy : StoredValue → Except String PolicyRecord
  | .policy record =>
    if policyRecordNesting record ≤ jsonLimit then .ok record
    else .error "recursion limit exceeded"
  | _ => .error "invalid type"

/-- Every DID of a stored subject passes through its constructor. -/
def decodesSubject : Subject → Bool
  | .entity did => didAccepts did.asStr
  | _ => true

def decodeRelationship : StoredValue → Except String RelationshipRecord
  | .relationship record =>
    if decodesSubject record.relationship.subject then .ok record
    else .error "unsupported or malformed identity"
  | _ => .error "invalid type"

def decodesEvent (event : AmendmentEvent) : Bool :=
  didAccepts event.newOwner.did.asStr && didAccepts event.previousOwner.did.asStr

def decodesResult : PolicyCmdResult → Bool
  | .setRelationship _ record => decodesSubject record.relationship.subject
  | .registerObject record => decodesSubject record.relationship.subject
  | .unarchiveObject record _ => decodesSubject record.relationship.subject
  | .revealRegistration record event =>
    decodesSubject record.relationship.subject && event.all decodesEvent
  | .flagHijackAttempt event => decodesEvent event
  | _ => true

def decodeCommand (result : PolicyCmdResult) :
    Except String PolicyCmdResult :=
  if decodesResult result then .ok result
  else .error "unsupported or malformed identity"

def decodeCommitment : StoredValue → Except String RegistrationsCommitment
  | .commitment record => .ok record
  | _ => .error "Unexpected length of input"

def decodeAmendment : StoredValue → Except String AmendmentEvent
  | .amendment event => .ok event
  | _ => .error "Unexpected length of input"

def decodeParams : StoredValue → Except String AcpParams
  | .params parameters => .ok parameters
  | _ => .error "Unexpected length of input"

def decodeOperation : StoredValue → Except String OperationRecord
  | .operation record =>
    if 1 + max (resultNesting record.result) 1 ≤ jsonLimit then .ok record
    else .error "recursion limit exceeded"
  | _ => .error "invalid type"

def asCounter : StoredValue → Option UInt64
  | .counter value => some value
  | _ => none

def isEmpty : StoredValue → Bool
  | .empty => true
  | _ => false

end StoredValue

/-! ## Access decisions in bytes -/

def borshLength (length : Nat) : Bytes :=
  (bigEndian 4 length).reverse

def borshString (text : String) : Bytes :=
  borshLength (utf8 text).length ++ utf8 text

def borshOperation (operation : Operation) : Bytes :=
  borshString operation.object.resource ++ borshString operation.object.id ++
    borshString operation.permission

def borshOperations (operations : List Operation) : Bytes :=
  borshLength operations.length ++ operations.flatMap borshOperation

def borshDecision (decision : AccessDecision) : Bytes :=
  borshString decision.id ++ borshString decision.policyId ++
    borshString decision.creator ++ leBytes decision.creatorAccSequence ++
      borshOperations decision.operations ++ borshString decision.actor ++
        leBytes decision.params.decisionExpirationDelta ++
          leBytes decision.params.proofExpirationDelta ++
            leBytes decision.params.ticketExpirationDelta ++
              leBytes decision.creationTime.seconds ++
                leBytes decision.creationTime.blockHeight ++ leBytes decision.issuedHeight

/-! ## Functions outside the module -/

/-- What the module takes from other libraries: hashing and subject encoding,
the two readers of policy documents, encoded lengths, the encoding of policies
and canonical issuers. -/
structure Externals where
  hashing : KeyHashing
  parsePolicyYaml : String → Except String ParsedPolicy
  parsePolicyJson : String → Except String ParsedPolicy
  encodedLength : StoredValue → Nat
  policyJson : Policy → Bytes
  canonicalIssuer : String → Except String String

/-- The decoders the permission engine uses over module records. -/
def Externals.codec (externals : Externals) : RecordCodec StoredValue where
  size := externals.encodedLength
  decodePolicy value :=
    match value.decodePolicy with
    | .ok record => .ok record
    | .error message => .error (.json message)
  decodeRelationship value :=
    match value.decodeRelationship with
    | .ok record => .ok record
    | .error message => .error (.json message)

end VeraHub.Acp

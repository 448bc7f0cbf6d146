import VeraHub.Acp.Stored
import VeraHub.Permission.Reads

/-!
# The access control module

Module state is a key-value store and a cache of the compiled policies.
Functions that take the module by shared reference are results read from a
state; functions that take it mutably are computations whose writes stay when a
later step fails.
-/

namespace VeraHub.Acp

open VeraHub.Zanzibar

/-- Access control policy module. -/
structure AcpModule where
  store : KvStore StoredValue
  zanzibarPolicies : OrderedMap Bytes Policy

/-- A method that may change the module. -/
abbrev AcpM (α : Type) : Type :=
  Exec AcpModule AcpError α

namespace AcpModule

def new : AcpModule :=
  ⟨OrderedMap.empty, OrderedMap.empty⟩

def cached (module : AcpModule) (policyId : String) : Option Policy :=
  module.zanzibarPolicies.get (utf8 policyId)

def cachedPolicy (policyId : String) (module : AcpModule) :
    Except AcpError Policy :=
  match module.cached policyId with
  | some policy => .ok policy
  | none => .error (.policyNotFound policyId)

def scan (module : AcpModule) (start : Bytes) : List (Bytes × StoredValue) :=
  module.store.prefixScan start

/-! ## Writes -/

def withStored (module : AcpModule) (key : Bytes) (value : StoredValue) :
    AcpModule :=
  { module with store := module.store.insert key value }

def withoutStored (module : AcpModule) (key : Bytes) : AcpModule :=
  { module with store := module.store.erase key }

def put (key : Bytes) (value : StoredValue) : AcpM Unit :=
  Exec.modify fun module => module.withStored key value

def delete (key : Bytes) : AcpM Unit :=
  Exec.modify fun module => module.withoutStored key

def deleteAll (keys : List Bytes) : AcpM Unit :=
  Exec.modify fun module => keys.foldl withoutStored module

def cachePolicy (policyId : String) (policy : Policy) : AcpM Unit :=
  Exec.modify fun module =>
    { module with
      zanzibarPolicies := module.zanzibarPolicies.insert (utf8 policyId) policy }

/-! ## Reads -/

def readCounter (key : Bytes) (message : String) (module : AcpModule) :
    Except AcpError UInt64 :=
  match module.store.get key with
  | none => .ok 0
  | some value =>
    match value.asCounter with
    | some count => .ok count
    | none => .error (.state message)

def nextCounter (key : Bytes) (invalid exhausted : String)
    (module : AcpModule) : Except AcpError UInt64 := do
  let count ← readCounter key invalid module
  match checkedSucc count with
  | some next => .ok next
  | none => .error (.state exhausted)

def nextPolicyCounter : AcpModule → Except AcpError UInt64 :=
  nextCounter policyCounterKey "policy counter must contain exactly 8 bytes"
    "policy counter exhausted"

def getPolicyRecord (id : String) (module : AcpModule) :
    Except AcpError (Option PolicyRecord) :=
  match module.store.get (policyKey id) with
  | none => .ok none
  | some value =>
    match value.decodePolicy with
    | .error message => .error (.state s!"invalid policy record: {message}")
    | .ok record =>
      if record.policy.id ≠ id then
        .error (.state "policy record identity mismatch")
      else
        .ok (some record)

def getParams (module : AcpModule) : Except AcpError AcpParams :=
  match module.store.get paramsKey with
  | none => .ok AcpParams.default
  | some value =>
    match value.decodeParams with
    | .error message => .error (.state s!"invalid ACP parameters: {message}")
    | .ok params => .ok params

def getCommitmentById (id : UInt64) (module : AcpModule) :
    Except AcpError (Option RegistrationsCommitment) :=
  match module.store.get (commitmentKey id) with
  | none => .ok none
  | some value =>
    match value.decodeCommitment with
    | .error message => .error (.state s!"invalid commitment: {message}")
    | .ok record =>
      if id = 0 ∨ record.id ≠ id ∨ record.commitment.length ≠ 32 then
        .error (.state "commitment identity or root mismatch")
      else
        .ok (some record)

/-- A stored amendment has the identifier it is stored under. -/
def decodeAmendmentOf (value : StoredValue) (id : UInt64) :
    Except AcpError AmendmentEvent :=
  match value.decodeAmendment with
  | .error message => .error (.state s!"invalid amendment event: {message}")
  | .ok event =>
    if id = 0 ∨ event.id ≠ id then
      .error (.state "amendment event identity mismatch")
    else
      .ok event

def getAmendmentEventById (id : UInt64) (module : AcpModule) :
    Except AcpError (Option AmendmentEvent) :=
  match module.store.get (amendmentEventKey id) with
  | none => .ok none
  | some value => (decodeAmendmentOf value id).map some

section Relationships

variable (externals : Externals)

def relationshipKeyOf (policyId : String) (relationship : Relationship) :
    Bytes :=
  relationshipKey policyId (relationshipStorageKey externals.hashing relationship)

def getRelationship (policyId : String) (relationship : Relationship)
    (module : AcpModule) : Except AcpError (Option RelationshipRecord) :=
  match module.store.get (relationshipKeyOf externals policyId relationship) with
  | none => .ok none
  | some value =>
    match value.decodeRelationship with
    | .error message =>
      .error (.state s!"invalid relationship record: {message}")
    | .ok record =>
      if record.policyId ≠ policyId ∨ record.relationship ≠ relationship then
        .error (.state "relationship record identity mismatch")
      else
        .ok (some record)

/-- Store a record under the key of its relationship. -/
def setRelationship (policyId : String) (record : RelationshipRecord) :
    AcpM Unit :=
  put (relationshipKeyOf externals policyId record.relationship) (.relationship record)

def deleteRelationship (policyId : String) (relationship : Relationship) :
    AcpM Unit :=
  delete (relationshipKeyOf externals policyId relationship)

/-- Decode the relationships below a prefix and keep the keys of those that are
selected; every record must be stored under its own key. -/
def selectKeys (policyId : String) (mismatch : String) (selected : Relationship → Bool) :
    List (Bytes × StoredValue) → Except AcpError (List Bytes)
  | [] => .ok []
  | (key, value) :: rest =>
    match value.decodeRelationship with
    | .error message =>
      .error (.state s!"invalid relationship record: {message}")
    | .ok record =>
      if record.policyId ≠ policyId ∨
          relationshipKeyOf externals policyId record.relationship ≠ key then
        .error (.state mismatch)
      else do
        let keys ← selectKeys policyId mismatch selected rest
        .ok (if selected record.relationship then key :: keys else keys)

def registrationOwnerRecord (policyId : String) (object : Object)
    (module : AcpModule) : Except AcpError (Option RelationshipRecord) :=
  match module.scan
      (relationshipStoragePrefix policyId (relationPrefix object.resource object.id "owner")) with
  | [] => .ok none
  | _ :: _ :: _ => .error (.state "multiple object owner records")
  | [(key, value)] =>
    match value.decodeRelationship with
    | .error message =>
      .error (.state s!"invalid object owner record: {message}")
    | .ok record =>
      match record.relationship.subject with
      | .entity actor =>
        if record.policyId ≠ policyId ∨
            record.relationship.resource ≠ object.resource ∨
              record.relationship.objectId ≠ object.id ∨
                record.relationship.relation ≠ "owner" ∨
                  record.metadata.ownerDid ≠ actor.asStr ∨
                    relationshipStoragePrefix policyId
                        (relationshipStorageKey externals.hashing record.relationship) ≠ key then
          .error (.state "object owner record does not match its key")
        else
          .ok (some record)
      | _ => .error (.state "object owner must be an actor")

def queryObjectOwner (policyId : String) (object : Object)
    (module : AcpModule) : Except AcpError (Option RelationshipRecord) := do
  let record ← registrationOwnerRecord externals policyId object module
  .ok (record.filter fun found => !found.archived)

end Relationships

/-! ## Policies -/

section Policies

variable (externals : Externals)

def parsePolicy (policy : String) (marshalType : PolicyMarshalingType) :
    Except AcpError ParsedPolicy :=
  match marshalType with
  | .shortYaml =>
    match externals.parsePolicyYaml policy with
    | .ok parsed => .ok parsed
    | .error reason => .error (.invalidPolicy reason)
  | .shortJson =>
    match externals.parsePolicyJson policy with
    | .ok parsed => .ok parsed
    | .error reason =>
      .error (.invalidPolicy s!"invalid policy JSON: {reason}")
  | .unknown => .error (.invalidPolicy "unknown policy marshal type")

/-- Compile a definition; an edited policy keeps its specification. -/
def compilePolicy (policy : String) (marshalType : PolicyMarshalingType)
    (counter : UInt64) (originalSpecification : Option PolicySpecification) :
    Except AcpError Policy :=
  if (utf8 policy).length > 64 * 1024 then
    .error (.invalidPolicy "policy definition exceeds 64 KiB")
  else do
    let parsed ← parsePolicy externals policy marshalType
    let parsed := { parsed with spec := originalSpecification.getD parsed.spec }
    match buildPolicy externals.hashing.sha256 parsed counter with
    | .error error => .error (.invalidPolicy error.text)
    | .ok built =>
      match built.validate with
      | .error error => .error (.invalidPolicy error.text)
      | .ok () => .ok built

def createPolicyWithMetadata (policy : String)
    (marshalType : PolicyMarshalingType) (metadata : RecordMetadata) :
    AcpM PolicyRecord := do
  let counter ← Exec.query nextPolicyCounter
  let zanzibarPolicy ← Exec.ofExcept (compilePolicy externals policy marshalType counter none)
  let record : PolicyRecord := ⟨zanzibarPolicy, policy, marshalType, metadata⟩
  let existing ← Exec.gets fun module =>
    module.store.get (policyKey zanzibarPolicy.id)
  Exec.failIf (existing.isSome) (.state "policy identifier already exists")
  put policyCounterKey (.counter counter)
  put (policyKey zanzibarPolicy.id) (.policy record)
  cachePolicy zanzibarPolicy.id zanzibarPolicy
  pure record

/-- Metadata of a record written without an execution context. -/
def plainMetadata (owner : Did) : RecordMetadata where
  creationTs := default
  txHash := []
  txSigner := ""
  ownerDid := owner.asStr

def createPolicy (creator : Did) (policy : String)
    (marshalType : PolicyMarshalingType) : AcpM PolicyRecord :=
  createPolicyWithMetadata externals policy marshalType (plainMetadata creator)

/-- A resource of the old policy that the new one lacks. -/
def removedResource (old new : Policy) : Option Resource :=
  old.resources.find? fun resource =>
    (new.resources.any fun kept => kept.name = resource.name) = false

/-- Replace a policy's definition, pruning relationships that no longer fit. -/
def editPolicy (creator : Did) (policyId policy : String)
    (marshalType : PolicyMarshalingType) : AcpM (Nat × PolicyRecord) := do
  match ← Exec.query (getPolicyRecord policyId) with
  | none => Exec.fail (.policyNotFound policyId)
  | some existing =>
    Exec.failIf (existing.metadata.ownerDid ≠ creator.asStr)
      (.unauthorized "only the policy creator can edit it")
    let compiled ← Exec.ofExcept
      (compilePolicy externals policy marshalType 0 (some existing.policy.specification))
    match removedResource existing.policy compiled with
    | some resource =>
      Exec.fail (.invalidPolicy
        ("resource '" ++ resource.name ++ "' cannot be removed from an existing policy"))
    | none =>
      let edited := { compiled with id := policyId }
      let orphans ← Exec.query fun module =>
        selectKeys externals policyId "relationship record differs from its key"
          (fun relationship =>
            (edited.getRelation relationship.resource relationship.relation).isNone)
          (module.scan (relationshipPolicyPrefix policyId))
      deleteAll orphans
      let record : PolicyRecord := ⟨edited, policy, marshalType, existing.metadata⟩
      put (policyKey policyId) (.policy record)
      cachePolicy policyId edited
      pure (orphans.length, record)

end Policies

end AcpModule

end VeraHub.Acp

import VeraHub.Acp.Types

/-!
# Keys of the access control module

Relationship keys write their identifiers in hexadecimal between path
separators, so that a separator inside an identifier cannot move a boundary.
-/

namespace VeraHub.Acp

open VeraHub.Zanzibar

/-- The hash function and the subject encoding that relationship keys use. -/
structure KeyHashing where
  sha256 : Bytes → Bytes
  subjectJson : Subject → Bytes

def policyPrefix : Bytes :=
  utf8 "policy/objs/"

def policyCounterKey : Bytes :=
  utf8 "policy/counter/id"

def relationshipPrefix : Bytes :=
  utf8 "relationship/"

def policyKey (id : String) : Bytes :=
  policyPrefix ++ utf8 id

/-- Exact object boundary, including when identifiers contain path
separators. -/
def objectPrefix (resource objectId : String) : Bytes :=
  utf8 "v2/" ++ hexEncode (utf8 resource) ++ [slash] ++ hexEncode (utf8 objectId) ++ [slash]

def relationPrefix (resource objectId relation : String) : Bytes :=
  objectPrefix resource objectId ++ hexEncode (utf8 relation) ++ [slash]

def subjectDomain : Bytes :=
  utf8 "vera/acp-subject/v1" ++ [0]

def relationshipStorageKey (hashing : KeyHashing) (relationship : Relationship) : Bytes :=
  relationPrefix relationship.resource relationship.objectId relationship.relation ++
    hexEncode (hashing.sha256 (subjectDomain ++ hashing.subjectJson relationship.subject))

/-- Prefix for scanning all relationships under a policy. -/
def relationshipPolicyPrefix (policyId : String) : Bytes :=
  relationshipPrefix ++ utf8 policyId ++ [slash]

def relationshipKey (policyId : String) (storageKey : Bytes) : Bytes :=
  relationshipPrefix ++ utf8 policyId ++ [slash] ++ storageKey

/-- Prefix for scanning relationships under a storage key prefix within a
policy. -/
def relationshipStoragePrefix (policyId : String) (storagePrefix : Bytes) : Bytes :=
  relationshipPolicyPrefix policyId ++ storagePrefix

/-! ## Decisions, commitments and amendments -/

def accessDecisionPrefix : Bytes :=
  utf8 "access_decision/"

def accessDecisionKey (decisionId : String) : Bytes :=
  accessDecisionPrefix ++ utf8 decisionId

def paramsKey : Bytes :=
  utf8 "p_acp"

def commitmentObjects : Bytes :=
  utf8 "commitment/objs/"

def commitmentKey (id : UInt64) : Bytes :=
  commitmentObjects ++ beBytes id

def commitmentCounterKey : Bytes :=
  utf8 "commitment/counter/id"

def commitmentRoots : Bytes :=
  utf8 "commitment/indexes/commitment/idx/"

def commitmentByCommitmentIndexPrefix (root : Bytes) : Bytes :=
  commitmentRoots ++ root ++ [slash]

def commitmentByCommitmentIndexKey (root : Bytes) (id : UInt64) : Bytes :=
  commitmentByCommitmentIndexPrefix root ++ beBytes id

/-- Prefix of the expiry index of commitments with a validity in seconds. -/
def secondsPrefix : Bytes :=
  utf8 "commitment_expiry/seconds/"

/-- Prefix of the expiry index of commitments with a validity in blocks. -/
def heightPrefix : Bytes :=
  utf8 "commitment_expiry/height/"

def commitmentExpiryKey (commitment : RegistrationsCommitment) : Bytes :=
  match commitment.validity with
  | .seconds delta =>
    secondsPrefix ++
      beBytes (saturatingAdd commitment.metadata.creationTs.seconds delta) ++ beBytes commitment.id
  | .blocks delta =>
    heightPrefix ++
      beBytes (saturatingAdd commitment.metadata.creationTs.blockHeight delta) ++
        beBytes commitment.id

def amendmentEventObjects : Bytes :=
  utf8 "amendment_event/objs/"

def amendmentEventKey (id : UInt64) : Bytes :=
  amendmentEventObjects ++ beBytes id

def amendmentEventCounterKey : Bytes :=
  utf8 "amendment_event/counter/id"

def amendmentEventPolicies : Bytes :=
  utf8 "amendment_event/indexes/policy/idx/"

def amendmentEventPolicyIndexPrefix (policyId : String) : Bytes :=
  amendmentEventPolicies ++ utf8 policyId ++ [slash]

def amendmentEventPolicyIndexKey (policyId : String) (id : UInt64) : Bytes :=
  amendmentEventPolicyIndexPrefix policyId ++ beBytes id

/-! ## Operation outcomes -/

def operationPrefix : Bytes :=
  utf8 "operation/v1/"

def operationExpiryPrefix : Bytes :=
  utf8 "operation-expiry/v1/"

def operationBytesKey : Bytes :=
  utf8 "operation-bytes/v1"

def operationBudgetKey : Bytes :=
  utf8 "operation-budget/v1"

end VeraHub.Acp

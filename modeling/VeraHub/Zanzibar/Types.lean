import Mathlib

/-!
# Policies, relationships and subjects

The data types of the permission engine, and the checks a policy makes on its
own expressions and on the relationships stored under it.
-/

namespace VeraHub.Zanzibar

/-! ## Identities -/

def didKeyPrefix : String :=
  "did:key:"

/-- The prefix for stable OpenPubkey actor identifiers. -/
def didOpkPrefix : String :=
  "did:opk:"

def startsWith (text start : String) : Bool :=
  start.toList.isPrefixOf text.toList

def isLowerHex (character : Char) : Bool :=
  character.isDigit || ('a' ≤ character && character ≤ 'f')

/-- The texts `Did::new` accepts: a key identity, or a provider actor with a
lowercase digest of 64 digits. -/
def didAccepts (text : String) : Bool :=
  let digest := text.toList.drop didOpkPrefix.toList.length
  let provider := startsWith text didOpkPrefix && (digest.length == 64 && digest.all isLowerHex)
  startsWith text didKeyPrefix || provider

/-- A DID value.  Besides the accepted texts the type also holds the wildcard,
which is built directly and which the text decoder refuses. -/
structure Did where
  asStr : String
  supported : asStr = "*" ∨ didAccepts asStr = true
deriving DecidableEq

namespace Did

@[ext]
theorem ext {first second : Did} (equality : first.asStr = second.asStr) : first = second := by
  cases first
  cases second
  cases equality
  rfl

theorem supported_alice : "did:key:alice" = "*" ∨ didAccepts "did:key:alice" = true := by
  decide

theorem supported_bob : "did:key:bob" = "*" ∨ didAccepts "did:key:bob" = true := by
  decide

end Did

/-! ## Errors -/

/-- The failures of the permission engine and of its stores. -/
inductive Error where
  | indeterminateExclusion
  | evaluationLimitExceeded (limit : String)
  | json (message : String)
  | invalidDid (message : String)
  | policyNotFound (policyId : String)
  | relationNotFound (resource relation : String)
  | resourceNotFound (resource : String)
  | invalidExpression (message : String)
  | invalidPolicy (message : String)
  | invalidEntitySetReference (resource relation : String)
  | subjectRestrictionViolation (message : String)
  | dpiMissingOwner (resource : String)
  | dpiExpressionMissingOwner (resource relation : String)
  | dpiDisallowedOperation (resource relation operation : String)
  | invalidRelationshipField (field reason : String)
  | serialization (message : String)
  | invalidSubjectEncoding (message : String)
deriving DecidableEq, Repr

def Error.text : Error → String
  | .indeterminateExclusion =>
    "cannot resolve an exclusion through a relationship cycle"
  | .evaluationLimitExceeded limit =>
    s!"permission evaluation {limit} limit exceeded"
  | .json message => s!"serialization error: {message}"
  | .invalidDid message => s!"invalid DID: {message}"
  | .policyNotFound policyId => s!"policy not found: {policyId}"
  | .relationNotFound resource relation =>
    s!"relation not found: {relation} in resource {resource}"
  | .resourceNotFound resource => s!"resource not found: {resource}"
  | .invalidExpression message => s!"invalid expression: {message}"
  | .invalidPolicy message => s!"invalid policy: {message}"
  | .invalidEntitySetReference resource relation =>
    s!"invalid EntitySet reference: resource '{resource}' relation " ++
      s!"'{relation}' does not exist in policy"
  | .subjectRestrictionViolation message =>
    s!"subject restriction violated: {message}"
  | .dpiMissingOwner resource =>
    s!"DPI violation: resource '{resource}' must have an 'owner' relation"
  | .dpiExpressionMissingOwner resource relation =>
    s!"DPI violation: permission '{relation}' on resource " ++
      s!"'{resource}' must include 'owner' in its expression"
  | .dpiDisallowedOperation resource relation operation =>
    s!"DPI violation: resource '{resource}' relation '{relation}' uses " ++
      s!"disallowed operation '{operation}'"
  | .invalidRelationshipField field reason =>
    s!"invalid relationship field '{field}': {reason}"
  | .serialization message => s!"serialization error: {message}"
  | .invalidSubjectEncoding message => s!"invalid subject encoding: {message}"

def Did.new (text : String) : Except Error Did :=
  if accepted : didAccepts text = true then
    .ok ⟨text, Or.inr accepted⟩
  else
    .error (.invalidDid "unsupported or malformed identity")

/-! ## Subjects -/

inductive Subject where
  | entity (did : Did)
  | entitySet (resource objectId relation : String)
  | typedWildcard (resource : String)
  | wildcard
deriving DecidableEq

namespace Subject

def isTypedWildcard : Subject → Bool
  | .typedWildcard _ => true
  | _ => false

/-- The name of the subject form used in restriction messages. -/
def typeName : Subject → String
  | .entity _ => "Entity"
  | .entitySet _ _ _ => "EntitySet"
  | .typedWildcard _ => "TypedWildcard"
  | .wildcard => "Wildcard"

end Subject

inductive SubjectRestriction where
  | entity
  | entitySet (resource relation : String)
  | typedWildcard (resource : String)
  | actor
  | anyOf (restrictions : List SubjectRestriction)
  | any
deriving Repr

namespace SubjectRestriction

/-- Whether a subject is admitted, with the reason when it is not. -/
def satisfies (restriction : SubjectRestriction) (subject : Subject) :
    Except String Unit :=
  match restriction with
  | .entity =>
    match subject with
    | .entity _ => .ok ()
    | _ => .error s!"expected entity subject, got {subject.typeName}"
  | .entitySet resource relation =>
    match subject with
    | .entitySet subjectResource _ subjectRelation =>
      if subjectResource = resource ∧ subjectRelation = relation then
        .ok ()
      else
        .error (s!"expected EntitySet from {resource}#{relation}, " ++
          s!"got {subjectResource}#{subjectRelation}")
    | _ => .error s!"expected EntitySet subject, got {subject.typeName}"
  | .typedWildcard resource =>
    match subject with
    | .typedWildcard subjectResource =>
      if subjectResource = resource then
        .ok ()
      else
        .error (s!"expected TypedWildcard for {resource}, " ++ s!"got {subjectResource}")
    | _ => .error s!"expected TypedWildcard subject, got {subject.typeName}"
  | .actor =>
    match subject with
    | .entity _ => .ok ()
    | .wildcard => .ok ()
    | _ =>
      .error s!"expected an actor (entity or '*'), got {subject.typeName}"
  | .anyOf restrictions =>
    if satisfiesAny restrictions then
      .ok ()
    else
      .error (s!"subject {subject.typeName} satisfies none of " ++ "the relation's declared types")
  | .any => .ok ()
where
  satisfiesAny : List SubjectRestriction → Bool
    | [] => false
    | restriction :: rest =>
      (match satisfies restriction subject with
        | .ok _ => true
        | .error _ => false) || satisfiesAny rest

end SubjectRestriction

/-! ## Relation expressions -/

/-- The userset rewrite rules. -/
inductive RelationExpression where
  | this
  | computedUserset (relation : String)
  | tupleToUserset (tupleRelation computedRelation : String)
  | union (exprs : List RelationExpression)
  | intersection (exprs : List RelationExpression)
  | difference (base subtract : RelationExpression)
deriving Repr

/-! ## Relationships -/

structure ObjectRef where
  resource : String
  objectId : String
deriving DecidableEq, Repr

structure Relationship where
  resource : String
  objectId : String
  relation : String
  subject : Subject
deriving DecidableEq

/-! ## Policies -/

structure Relation where
  name : String
  description : String
  expression : RelationExpression
  subjectRestriction : Option SubjectRestriction
  manages : List String

structure Resource where
  name : String
  description : String
  relations : List Relation

def Resource.getRelation (resource : Resource) (name : String) :
    Option Relation :=
  resource.relations.find? fun relation => relation.name = name

/-- Permission rules selected when a policy is created. -/
inductive PolicySpecification where
  | none
  | defra
deriving DecidableEq, Repr

structure Policy where
  id : String
  name : String
  description : String
  actor : Option Resource
  resources : List Resource
  attributes : List (String × String)
  specification : PolicySpecification

namespace Policy

def getResource (policy : Policy) (name : String) : Option Resource :=
  match policy.resources.find? fun resource => resource.name = name with
  | some resource => some resource
  | none => policy.actor.filter fun actor => actor.name = name

def getRelation (policy : Policy) (resource relation : String) :
    Option Relation :=
  (policy.getResource resource).bind fun found => found.getRelation relation

/-- The relations of a resource that list `relation` among those they
manage. -/
def getManagersForRelation (policy : Policy) (resource relation : String) :
    List String :=
  match policy.getResource resource with
  | none => []
  | some found =>
    (found.relations.filter fun candidate =>
      candidate.manages.contains relation).map fun manager => manager.name

def isActor (policy : Policy) (resource : String) : Bool :=
  match policy.actor with
  | some actor => actor.name = resource
  | none => false

end Policy

/-! ## Relationship validation -/

/-- The subject a restriction sees: an actor object stands for its DID. -/
def terminalActor (policy : Policy) (subject : Subject) :
    Except Error (Option Subject) :=
  match subject with
  | .entitySet resource objectId relation =>
    if policy.isActor resource ∧ relation = "" then
      match Did.new objectId with
      | .ok did => .ok (some (.entity did))
      | .error _ =>
        .error (.invalidPolicy "invalid DID: unsupported or malformed identity")
    else
      .ok none
  | _ => .ok none

namespace Relationship

def validateActors (relationship : Relationship) (policy : Policy) :
    Except Error Unit :=
  if policy.isActor relationship.resource ∧ didAccepts relationship.objectId = false then
    .error (.invalidPolicy "actor object must be a DID")
  else
    match relationship.subject with
    | .entitySet resource objectId _ =>
      if policy.isActor resource ∧ didAccepts objectId = false then
        .error (.invalidPolicy "actor subject must be a DID")
      else
        .ok ()
    | _ => .ok ()

/-- An entity set must name a declared resource, or a declared relation. -/
def validateReference (relationship : Relationship) (policy : Policy) :
    Except Error Unit :=
  match relationship.subject with
  | .entitySet resource _ relation =>
    let referenceExists :=
      if relation = "" then
        (policy.getResource resource).isSome
      else
        (policy.getRelation resource relation).isSome
    if referenceExists then
      .ok ()
    else
      .error (.invalidEntitySetReference resource relation)
  | _ => .ok ()

/-- The declared subject types of the relation admit the subject. -/
def validateRestriction (relationship : Relationship) (policy : Policy) (definition : Relation) :
    Except Error Unit := do
  let terminal ← terminalActor policy relationship.subject
  match definition.subjectRestriction with
  | none => .ok ()
  | some restriction =>
    match restriction.satisfies (terminal.getD relationship.subject) with
    | .ok () => .ok ()
    | .error message =>
      .error (.subjectRestrictionViolation
        (s!"relation '{relationship.relation}' on resource " ++
          s!"'{relationship.resource}': {message}"))

def validate (relationship : Relationship) (policy : Policy) :
    Except Error Unit := do
  relationship.validateActors policy
  match policy.getRelation relationship.resource relationship.relation with
  | none =>
    .error (.relationNotFound relationship.resource relationship.relation)
  | some definition =>
    relationship.validateReference policy
    relationship.validateRestriction policy definition

end Relationship

end VeraHub.Zanzibar

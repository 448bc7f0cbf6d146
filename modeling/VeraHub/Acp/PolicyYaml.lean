import VeraHub.Acp.Types
import VeraHub.Library.Exec
import VeraHub.Zanzibar.Expression

/-!
# Policy definitions

A policy is defined by a short document.  Its names and references are checked
first; then each resource gets the reserved `owner` relation and each
permission is joined with it.
-/

namespace VeraHub.Acp

open VeraHub.Zanzibar

/-! ## Parsed documents -/

structure PolicyPermission where
  name : String
  doc : String
  expr : String
deriving DecidableEq, Repr

structure PolicyRelation where
  name : String
  doc : String
  types : List String
  manages : List String
deriving DecidableEq, Repr

structure PolicyResource where
  name : String
  description : String
  permissions : List PolicyPermission
  relations : List PolicyRelation
deriving DecidableEq, Repr

/-- A parsed policy document. -/
structure ParsedPolicy where
  name : String
  description : String
  spec : PolicySpecification
  metadata : List (String × String)
  actorRelations : List PolicyRelation
  resources : List PolicyResource
deriving DecidableEq, Repr

def PolicyResource.hasPermission (resource : PolicyResource) (name : String) :
    Bool :=
  resource.permissions.any fun permission => permission.name = name

/-- Why a definition is refused. -/
inductive PolicyError where
  | invalidPolicy (reason : String)
  | invalidRelation (reason : String)
  | zanzibar (error : Error)
deriving DecidableEq, Repr

def PolicyError.text : PolicyError → String
  | .invalidPolicy reason => s!"invalid policy: {reason}"
  | .invalidRelation reason => s!"invalid relation: {reason}"
  | .zanzibar error => error.text

/-! ## Names and references -/

namespace Schema

def invalid {α : Type} (reason : String) : Except PolicyError α :=
  .error (.invalidPolicy reason)

/-- A letter or underscore, followed by letters, digits and underscores. -/
def isIdentifier (name : String) : Bool :=
  match name.toList with
  | [] => false
  | first :: rest =>
    (utf8 name).length ≤ 128 && (isAsciiAlphabetic first || first = '_') &&
      rest.all fun character =>
        isAsciiAlphanumeric character || character = '_'

def identifier (name : String) : Except PolicyError Unit :=
  if isIdentifier name then .ok ()
  else invalid s!"invalid policy identifier '{name}'"

/-- The names of a resource's relations, each declared once. -/
def relationNames (withOwner : Bool) :
    List PolicyRelation → List String → Except PolicyError (List String)
  | [], names => .ok (if withOwner then names.insert "owner" else names)
  | relation :: rest, names => do
      identifier relation.name
      if relation.name ∈ names then
        invalid s!"duplicate relation '{relation.name}'"
      else if relation.name = "owner" ∧
          (withOwner = false ∨ relation.types ≠ [] ∨ relation.manages ≠ []) then
        invalid "the owner relation cannot be customized"
      else
        relationNames withOwner rest (names ++ [relation.name])

def permissionNames : List PolicyPermission → List String → Except PolicyError (List String)
  | [], names => .ok names
  | permission :: rest, names => do
      identifier permission.name
      if permission.name ∈ names then
        invalid s!"duplicate or reserved relation '{permission.name}'"
      else
        permissionNames rest (names ++ [permission.name])

/-- The relation and permission names of each resource. -/
def resourceNames :
    List PolicyResource → List (String × List String) →
      Except PolicyError (List (String × List String))
  | [], names => .ok names
  | resource :: rest, names => do
      identifier resource.name
      if resource.name = "actor" ∨ (names.lookup resource.name).isSome then
        invalid s!"duplicate or reserved resource '{resource.name}'"
      else
        let relations ← relationNames true resource.relations []
        let relations ← permissionNames resource.permissions relations
        resourceNames rest (names ++ [(resource.name, relations)])

/-- A declared subject type and its userset relation, or no relation. -/
def subjectType (declared : String) : String × String :=
  let trimmed := trim declared.toList
  match splitArrow trimmed with
  | some (resource, relation) =>
    (String.ofList resource, String.ofList relation)
  | none => (String.ofList trimmed, "")

def knownType (names : List (String × List String)) (declared : String) :
    Bool :=
  let (resource, relation) := subjectType declared
  match names.lookup resource with
  | some relations => relation = "" || relations.contains relation
  | none => false

def validateReferences (names : List (String × List String))
    (relations : List PolicyRelation) : Except PolicyError Unit :=
  relations.forM fun relation => do
    relation.manages.forM fun managed =>
      if managed = "owner" ∨ (relations.any fun other => other.name = managed) = false then
        invalid s!"invalid managed relation '{managed}'"
      else
        .ok ()
    relation.types.forM fun declared =>
      if knownType names declared then
        .ok ()
      else
        invalid ("unknown subject type '" ++ String.ofList (trim declared.toList) ++ "'")

def validate (policy : ParsedPolicy) : Except PolicyError Unit := do
  if trim policy.name.toList = [] ∨ 256 < (utf8 policy.name).length then
    invalid "policy name must contain 1–256 bytes"
  else
    let names ← resourceNames policy.resources []
    let actor ← relationNames false policy.actorRelations []
    let names := names ++ [("actor", actor)]
    policy.resources.forM fun resource =>
      validateReferences names resource.relations
    validateReferences names policy.actorRelations

end Schema

/-! ## Building a policy -/

/-- The inner hash: the name, and the sorted names below it. -/
def policyFields (parsed : ParsedPolicy) : Bytes :=
  let resources := parsed.resources.insertionSort
    fun first second => utf8 first.name ≤ utf8 second.name
  utf8 parsed.name ++ resources.flatMap fun resource =>
    let relations := resource.relations.insertionSort
      fun first second => utf8 first.name ≤ utf8 second.name
    let permissions := resource.permissions.insertionSort
      fun first second => utf8 first.name ≤ utf8 second.name
    utf8 resource.name ++
      (relations.flatMap fun relation => utf8 relation.name) ++
        permissions.flatMap fun permission =>
          utf8 permission.name ++ utf8 permission.expr

/-- Policy identifiers hash the definition together with a sequence number. -/
def generatePolicyId (sha256 : Bytes → Bytes) (parsed : ParsedPolicy) (counter : UInt64) : String :=
  hexText (sha256 (sha256 (policyFields parsed) ++ utf8 (toString counter.toNat)))

def typeRestriction (declared : String) :
    Except PolicyError SubjectRestriction :=
  let trimmed := trim declared.toList
  if trimmed = "actor".toList then
    .ok .actor
  else
    match splitArrow trimmed with
    | some (resource, relation) =>
      if resource = [] ∨ relation = [] then
        .error (.invalidRelation
          ("invalid relation type '" ++ String.ofList trimmed ++
            "': expected 'actor', 'resource', or 'resource->relation'"))
      else
        .ok (.entitySet (String.ofList resource) (String.ofList relation))
    | none =>
      if trimmed = [] then
        .error (.invalidRelation "empty relation type")
      else
        .ok (.entitySet (String.ofList trimmed) "")

/-- Declared types combine as a union; none means no restriction. -/
def buildSubjectRestriction (types : List String) :
    Except PolicyError (Option SubjectRestriction) := do
  match ← types.mapM typeRestriction with
  | [] => .ok none
  | [restriction] => .ok (some restriction)
  | restrictions => .ok (some (.anyOf restrictions))

def directRelation (name : String) : Relation where
  name := name
  description := ""
  expression := .this
  subjectRestriction := none
  manages := []

def buildRelation (parsed : PolicyRelation) : Except PolicyError Relation := do
  let restriction ← buildSubjectRestriction parsed.types
  .ok { directRelation parsed.name with
      description := parsed.doc
      manages := parsed.manages
      subjectRestriction := restriction }

/-- The reserved relation, as declared or by default. -/
def ownerRelation (resource : PolicyResource) : Except PolicyError Relation :=
  match resource.relations.find? fun relation => relation.name = "owner" with
  | some owner => buildRelation owner
  | none => .ok (directRelation "owner")

/-- Every permission includes the owner; a Defra `read` also includes
`write`. -/
def buildPermission (spec : PolicySpecification)
    (permission : PolicyPermission) : Except PolicyError Relation := do
  let granted ←
    if permission.expr = "" then
      .ok (.computedUserset "owner")
    else
      match RelationExpression.parse permission.expr with
      | .ok expression =>
        .ok (.union [.computedUserset "owner", expression])
      | .error error => .error (.zanzibar error)
  let expression :=
    if spec = .defra ∧ permission.name = "read" then
      .union [granted, .computedUserset "write"]
    else
      granted
  .ok
    { name := permission.name
      description := permission.doc
      expression := expression
      subjectRestriction := none
      manages := [] }

def buildResource (spec : PolicySpecification) (parsed : PolicyResource) :
    Except PolicyError Resource := do
  let owner ← ownerRelation parsed
  let relations ←
    (parsed.relations.filter fun relation => relation.name ≠ "owner").mapM buildRelation
  let permissions ← parsed.permissions.mapM (buildPermission spec)
  .ok
    { name := parsed.name
      description := parsed.description
      relations := owner :: relations ++ permissions }

/-- The Defra specification requires both standard permissions. -/
def defraPermissions (resources : List PolicyResource) :
    Except PolicyError Unit :=
  resources.forM fun resource =>
    ["read", "write"].forM fun permission =>
      if resource.hasPermission permission then
        .ok ()
      else
        Schema.invalid
          (s!"Defra specification requires permission '{permission}' " ++
            s!"on resource '{resource.name}'")

/-- The checks on a definition before anything is built. -/
def checkDefinition (parsed : ParsedPolicy) : Except PolicyError Unit := do
  Schema.validate parsed
  if parsed.spec = .defra then
    defraPermissions parsed.resources
  else
    .ok ()

def assemblePolicy (id : String) (parsed : ParsedPolicy) :
    Except PolicyError Policy := do
  let resources ← parsed.resources.mapM (buildResource parsed.spec)
  let actorRelations ← parsed.actorRelations.mapM buildRelation
  .ok
    { id := id
      name := parsed.name
      description := parsed.description
      actor := some
        { name := "actor", description := "", relations := actorRelations }
      resources := resources
      attributes := parsed.metadata
      specification := parsed.spec }

def buildPolicy (sha256 : Bytes → Bytes)
    (parsed : ParsedPolicy) (counter : UInt64) : Except PolicyError Policy := do
  checkDefinition parsed
  let policy ← assemblePolicy (generatePolicyId sha256 parsed counter) parsed
  match policy.validate with
  | .ok () => .ok policy
  | .error error => Schema.invalid error.text

/-! ## Every resource declares its owner -/

def DeclaresOwner (policy : Policy) : Prop :=
  ∀ resource ∈ policy.resources, (resource.getRelation "owner").isSome = true

variable {relation : Relation}

theorem buildRelation_name {parsed : PolicyRelation} (built : buildRelation parsed = .ok relation) :
    relation.name = parsed.name := by
  obtain ⟨restriction, restricted, made⟩ := exceptBind_ok built
  cases made
  rfl

variable {parsed : PolicyResource}

theorem ownerRelation_name (built : ownerRelation parsed = .ok relation) :
    relation.name = "owner" := by
  unfold ownerRelation at built
  cases found : parsed.relations.find? fun candidate =>
      candidate.name = "owner" with
  | none =>
    simp only [found] at built
    cases built
    rfl
  | some owner =>
    simp only [found] at built
    have named := List.find?_some found
    rw [buildRelation_name built]
    simpa using named

theorem buildResource_declaresOwner {spec : PolicySpecification} {resource : Resource}
    (built : buildResource spec parsed = .ok resource) :
    (resource.getRelation "owner").isSome = true := by
  obtain ⟨owner, owned, afterOwner⟩ := exceptBind_ok built
  obtain ⟨relations, related, afterRelations⟩ := exceptBind_ok afterOwner
  obtain ⟨permissions, permitted, made⟩ := exceptBind_ok afterRelations
  cases made
  have named := ownerRelation_name owned
  simp [Resource.getRelation, named]

variable {parsed : ParsedPolicy} {policy : Policy}

theorem assemblePolicy_ok {id : String} (built : assemblePolicy id parsed = .ok policy) :
    policy.id = id ∧ policy.specification = parsed.spec ∧
      DeclaresOwner policy := by
  obtain ⟨resources, resourced, afterResources⟩ := exceptBind_ok built
  obtain ⟨actorRelations, acted, made⟩ := exceptBind_ok afterResources
  cases made
  refine ⟨rfl, rfl, ?_⟩
  intro resource member
  obtain ⟨source, _, compiled⟩ := mem_of_mapM_ok resourced resource member
  exact buildResource_declaresOwner compiled

theorem assemblePolicy_rename {id : String} (built : assemblePolicy id parsed = .ok policy) (other : String) :
    assemblePolicy other parsed = .ok { policy with id := other } := by
  obtain ⟨resources, resourced, afterResources⟩ := exceptBind_ok built
  obtain ⟨actorRelations, acted, made⟩ := exceptBind_ok afterResources
  cases made
  unfold assemblePolicy
  rw [resourced, acted]
  rfl

variable {sha256 : Bytes → Bytes}

theorem buildPolicy_ok {counter : UInt64} (built : buildPolicy sha256 parsed counter = .ok policy) :
    checkDefinition parsed = .ok () ∧
      assemblePolicy (generatePolicyId sha256 parsed counter) parsed = .ok policy ∧
      policy.validate = .ok () := by
  obtain ⟨unit, checked, afterChecks⟩ := exceptBind_ok built
  obtain ⟨assembled, made, validated⟩ := exceptBind_ok afterChecks
  cases valid : assembled.validate with
  | error failure =>
    rw [valid] at validated
    cases validated
  | ok passed =>
    rw [valid] at validated
    cases validated
    exact ⟨checked, made, valid⟩

theorem buildPolicy_of_checked {counter : UInt64} (checked : checkDefinition parsed = .ok ())
    (made : assemblePolicy (generatePolicyId sha256 parsed counter) parsed = .ok policy)
    (valid : policy.validate = .ok ()) : buildPolicy sha256 parsed counter = .ok policy := by
  unfold buildPolicy
  rw [checked, made]
  change (match policy.validate with
    | .ok () => Except.ok policy
    | .error error => Schema.invalid error.text) = _
  rw [valid]

end VeraHub.Acp

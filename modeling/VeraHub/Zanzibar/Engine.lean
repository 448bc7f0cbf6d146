import VeraHub.Library.Exec
import VeraHub.Zanzibar.Types

/-!
# The permission engine

The lookup table built from policies, the store interface, and the evaluation
of relation expressions with its trail, its shared cache and its work budget.
-/

namespace VeraHub.Zanzibar

/-! ## Policy lookup table -/

/-- Relation expressions by policy, resource and relation, and the actor
resource of each policy. -/
structure PolicyLookupTable where
  policies : String → Option (String → Option (String → Option RelationExpression))
  actors : String → Option String

namespace PolicyLookupTable

def new : PolicyLookupTable where
  policies _ := none
  actors _ := none

/-- Insert into a map; a later insertion replaces an earlier one. -/
def insert {α : Type} (map : String → Option α) (key : String) (value : α) : String → Option α :=
  fun name => if name = key then some value else map name

def relationTable (resource : Resource) : String → Option RelationExpression :=
  resource.relations.foldl (fun relations relation =>
      insert relations relation.name relation.expression)
    (fun _ => none)

def resourceTable (policy : Policy) : String → Option (String → Option RelationExpression) :=
  (policy.resources ++ policy.actor.toList).foldl (fun resources resource =>
      insert resources resource.name (relationTable resource))
    (fun _ => none)

def addPolicy (table : PolicyLookupTable) (policy : Policy) : PolicyLookupTable where
  policies := insert table.policies policy.id (resourceTable policy)
  actors name :=
    if name = policy.id then policy.actor.map Resource.name
    else table.actors name

def isActorResource (table : PolicyLookupTable) (policyId resource : String) : Bool :=
  match table.actors policyId with
  | some name => name = resource
  | none => false

def getExpression (table : PolicyLookupTable) (policyId resource relation : String) :
    Except Error RelationExpression :=
  match table.policies policyId with
  | none => .error (.policyNotFound policyId)
  | some resources =>
    match resources resource with
    | none => .error (.resourceNotFound resource)
    | some relations =>
      match relations relation with
      | none => .error (.relationNotFound resource relation)
      | some expression => .ok expression

section Insertions

variable {ι α : Type} {key : ι → String} {value : ι → α}
  {map : String → Option α} {name : String} {items : List ι}

theorem insert_apply (key name : String) (value : α) :
    insert map key value name = if name = key then some value else map name :=
  rfl

theorem foldl_insert_some {found : α} (present : (items.foldl (fun entries item =>
      insert entries (key item) (value item)) map) name = some found) :
    map name = some found ∨ ∃ item ∈ items, key item = name ∧ value item = found := by
  induction items generalizing map with
  | nil => exact .inl present
  | cons item rest ih =>
    rcases ih present with before | inserted
    · change insert map (key item) (value item) name = some found at before
      rw [insert_apply] at before
      by_cases here : name = key item
      · rw [if_pos here] at before
        exact .inr ⟨item, List.mem_cons_self, here.symm, Option.some.inj before⟩
      · rw [if_neg here] at before
        exact .inl before
    · obtain ⟨other, member, named⟩ := inserted
      exact .inr ⟨other, List.mem_cons_of_mem item member, named⟩

theorem foldl_insert_of_unique {item : ι} (member : item ∈ items)
    (unique : ∀ other ∈ items, key other = key item → value other = value item) :
    (items.foldl (fun entries other =>
      insert entries (key other) (value other)) map) (key item) =
        some (value item) := by
  have kept : ∀ (rest : List ι) (entries : String → Option α),
      (∀ other ∈ rest, key other = key item → value other = value item) →
        entries (key item) = some (value item) → (rest.foldl (fun entries other =>
            insert entries (key other) (value other)) entries) (key item) =
              some (value item) := by
    intro rest
    induction rest with
    | nil => exact fun _ _ present => present
    | cons first rest ih =>
      intro entries same present
      apply ih
      · exact fun other later => same other (List.mem_cons_of_mem _ later)
      · change insert entries (key first) (value first) (key item) = _
        rw [insert_apply]
        by_cases here : key item = key first
        · rw [if_pos here, same first List.mem_cons_self here.symm]
        · rw [if_neg here]
          exact present
  induction items generalizing map with
  | nil => cases member
  | cons first rest ih =>
    have restSame : ∀ other ∈ rest, key other = key item → value other = value item :=
      fun other later => unique other (List.mem_cons_of_mem _ later)
    rcases List.mem_cons.mp member with isFirst | inRest
    · apply kept rest _ restSame
      change insert map (key first) (value first) (key item) = _
      rw [insert_apply, isFirst, if_pos rfl]
    · exact ih inRest restSame

end Insertions

/-- The expressions in a table of one policy are those of its relations. -/
theorem getExpression_ok {policy : Policy} {resource relation : String}
    {expression : RelationExpression}
    (found : (new.addPolicy policy).getExpression policy.id resource relation = .ok expression) :
    ∃ source ∈ policy.resources ++ policy.actor.toList,
      source.name = resource ∧
        ∃ declared ∈ source.relations,
          declared.name = relation ∧ declared.expression = expression := by
  unfold getExpression addPolicy insert at found
  simp only [if_true] at found
  cases table : resourceTable policy resource with
  | none =>
    simp only [table] at found
    cases found
  | some relations =>
    simp only [table] at found
    cases entry : relations relation with
    | none =>
      simp only [entry] at found
      cases found
    | some other =>
      simp only [entry] at found
      cases found
      rcases foldl_insert_some table with absent | inserted
      · cases absent
      obtain ⟨source, member, named, isTable⟩ := inserted
      rw [← isTable] at entry
      rcases foldl_insert_some entry with absent | declared
      · cases absent
      exact ⟨source, member, named, declared⟩

/-- A relation whose names are unambiguous is found with its expression. -/
theorem getExpression_of_unique {policy : Policy} {source : Resource} {relation : Relation}
    (member : source ∈ policy.resources ++ policy.actor.toList)
    (alone : ∀ other ∈ policy.resources ++ policy.actor.toList,
      other.name = source.name → other = source)
    (declared : relation ∈ source.relations)
    (single : ∀ other ∈ source.relations,
      other.name = relation.name → other.expression = relation.expression) :
    (new.addPolicy policy).getExpression policy.id source.name relation.name =
      .ok relation.expression := by
  have table : resourceTable policy source.name =
      some (relationTable source) :=
    foldl_insert_of_unique member fun other listed named =>
      congrArg relationTable (alone other listed named)
  have entry : relationTable source relation.name =
      some relation.expression :=
    foldl_insert_of_unique declared single
  unfold getExpression addPolicy insert
  simp only [if_true, table, entry]

end PolicyLookupTable

/-! ## Store interface -/

/-- The reads the engine makes.  A store may fail, and it may keep a state of
its own, such as a read budget. -/
structure ZanzibarStore (σ : Type) where
  checkPermissionDirect :
    (policyId resource objectId relation : String) → (subject : Did) → Exec σ Error Bool
  getRelationSubjects : (policyId resource objectId relation : String) → Exec σ Error (List Subject)
  getRelationTargets :
    (policyId resource objectId relation : String) → Exec σ Error (List ObjectRef)

/-! ## Nodes, cache and budget -/

structure NodeId where
  resource : String
  objectId : String
  relation : String
deriving DecidableEq, Repr

/-- The nodes on the path from the root request. -/
abbrev NodeTrail : Type :=
  List NodeId

structure CheckKey where
  policyId : String
  node : NodeId
  subject : Did
deriving DecidableEq

/-- Maximum active expression evaluations in one permission traversal. -/
def maxEvaluationDepth : Nat :=
  64

/-- Maximum expression visits and relationship candidates per check or
batch. -/
def maxEvaluationSteps : Nat :=
  10000

/-- What one check or batch shares: the step counter, the memoised results
with the newest entry first, and the state of the store. -/
structure CheckCache (σ : Type) where
  steps : Nat
  results : List (CheckKey × Bool)
  store : σ

namespace CheckCache

variable {σ : Type}

def new (store : σ) : CheckCache σ where
  steps := 0
  results := []
  store := store

def get (cache : CheckCache σ) (key : CheckKey) : Option Bool :=
  cache.results.lookup key

def set (cache : CheckCache σ) (key : CheckKey) (result : Bool) :
    CheckCache σ :=
  { cache with results := (key, result) :: cache.results }

/-- Account for one expression visit or relationship candidate. -/
def charge : Exec (CheckCache σ) Error Unit :=
  fun cache =>
    if cache.steps < maxEvaluationSteps then
      (.ok (), { cache with steps := cache.steps + 1 })
    else
      (.error (.evaluationLimitExceeded "steps"), cache)

def onStore {α : Type} (operation : Exec σ Error α) :
    Exec (CheckCache σ) Error α :=
  fun cache =>
    let outcome := operation.run cache.store
    (outcome.1, { cache with store := outcome.2 })

theorem run_onStore {α : Type} (operation : Exec σ Error α) (cache : CheckCache σ) :
    (onStore operation).run cache =
      ((operation.run cache.store).1, { cache with store := (operation.run cache.store).2 }) :=
  rfl

end CheckCache

/-! ## Evaluation -/

/-- A decision with its `tainted` flag: the decision depended on a cycle
truncation and is only valid for the trail that produced it. -/
abbrev Eval : Type :=
  Bool × Bool

/-- Stop at the first grant; otherwise deny with the union of the taints. -/
def firstGrant {σ α : Type} (visit : α → Exec (CheckCache σ) Error Eval) :
    List α → Bool → Exec (CheckCache σ) Error Eval
  | [], tainted => pure (false, tainted)
  | item :: rest, tainted => do
      let (granted, itemTainted) ← visit item
      if granted then pure (true, itemTainted)
      else firstGrant visit rest (tainted || itemTainted)

/-- Stop at the first denial; otherwise grant with the union of the taints. -/
def everyGrant {σ α : Type} (visit : α → Exec (CheckCache σ) Error Eval) :
    List α → Bool → Exec (CheckCache σ) Error Eval
  | [], tainted => pure (true, tainted)
  | item :: rest, tainted => do
      let (granted, itemTainted) ← visit item
      if granted then everyGrant visit rest (tainted || itemTainted)
      else pure (false, itemTainted)

structure PermissionEngine (σ : Type) where
  store : ZanzibarStore σ
  lookup : PolicyLookupTable

namespace PermissionEngine

variable {σ : Type} (engine : PermissionEngine σ) (policyId : String) (subject : Did)

/-- Evaluation of an expression at a node, under a trail. -/
abbrev Inner (σ : Type) : Type :=
  NodeId → RelationExpression → NodeTrail → Exec (CheckCache σ) Error Eval

/-- Look in the cache first; store only what no truncation has tainted. -/
def evaluateExprCached (inner : Inner σ) : Inner σ :=
  fun node expression trail => do
    let key : CheckKey := ⟨policyId, node, subject⟩
    match ← Exec.gets fun cache => cache.get key with
    | some cached =>
      CheckCache.charge
      pure (cached, false)
    | none =>
      let (value, tainted) ← inner node expression trail
      if tainted then
        pure (value, tainted)
      else
        Exec.modify fun cache => cache.set key value
        pure (value, tainted)

/-- Follow an edge to a node: a node of the trail is truncated to a tainted
denial, any other node is evaluated under its own expression. -/
def visitNode (inner : Inner σ) (trail : NodeTrail) (node : NodeId) :
    Exec (CheckCache σ) Error Eval :=
  if node ∈ trail then
    pure (false, true)
  else do
    let expression ← Exec.ofExcept
      (engine.lookup.getExpression policyId node.resource node.relation)
    evaluateExprCached policyId subject inner node expression (node :: trail)

/-- One stored subject of the evaluated relation itself. -/
def visitThisSubject (inner : Inner σ) (trail : NodeTrail) :
    Subject → Exec (CheckCache σ) Error Eval
  | .entitySet resource objectId relation => do
      CheckCache.charge
      if relation = "" then
        pure (engine.lookup.isActorResource policyId resource && objectId == subject.asStr, false)
      else
        engine.visitNode policyId subject inner trail ⟨resource, objectId, relation⟩
  | _ => do
      CheckCache.charge
      pure (false, false)

def evaluateThis (inner : Inner σ) (node : NodeId) (trail : NodeTrail) :
    Exec (CheckCache σ) Error Eval := do
  let granted ← CheckCache.onStore
    (engine.store.checkPermissionDirect policyId node.resource node.objectId node.relation subject)
  if granted then
    pure (true, false)
  else
    let subjects ← CheckCache.onStore
      (engine.store.getRelationSubjects policyId node.resource node.objectId node.relation)
    firstGrant (engine.visitThisSubject policyId subject inner trail) subjects false

def visitTarget (inner : Inner σ) (trail : NodeTrail)
    (computedRelation : String) (target : ObjectRef) :
    Exec (CheckCache σ) Error Eval := do
  CheckCache.charge
  engine.visitNode policyId subject inner trail ⟨target.resource, target.objectId, computedRelation⟩

def visitTupleSubject (inner : Inner σ) (trail : NodeTrail)
    (computedRelation : String) : Subject → Exec (CheckCache σ) Error Eval
  | .entitySet resource objectId _ => do
      CheckCache.charge
      engine.visitNode policyId subject inner trail ⟨resource, objectId, computedRelation⟩
  | .typedWildcard _ => do
      CheckCache.charge
      pure (true, false)
  | .wildcard => do
      CheckCache.charge
      pure (true, false)
  | .entity _ => do
      CheckCache.charge
      pure (false, false)

def evaluateTupleToUserset (inner : Inner σ) (node : NodeId)
    (trail : NodeTrail) (tupleRelation computedRelation : String) :
    Exec (CheckCache σ) Error Eval := do
  let targets ← CheckCache.onStore
    (engine.store.getRelationTargets policyId node.resource node.objectId tupleRelation)
  let (granted, tainted) ←
    firstGrant (engine.visitTarget policyId subject inner trail computedRelation) targets false
  if granted then
    pure (true, tainted)
  else
    let subjects ← CheckCache.onStore
      (engine.store.getRelationSubjects policyId node.resource node.objectId tupleRelation)
    firstGrant (engine.visitTupleSubject policyId subject inner trail computedRelation)
      subjects tainted

def evaluateDifference (inner : Inner σ) (node : NodeId)
    (trail : NodeTrail) (base subtract : RelationExpression) :
    Exec (CheckCache σ) Error Eval := do
  let (baseGranted, baseTainted) ← inner node base trail
  if baseGranted then
    let (subtractGranted, subtractTainted) ← inner node subtract trail
    -- A truncated cycle is not proof of absence.
    if subtractTainted then
      Exec.fail .indeterminateExclusion
    else
      pure (!subtractGranted, baseTainted)
  else
    pure (false, baseTainted)

/-- The cases of the expression, over the evaluation of nested ones. -/
def evaluateCases (inner : Inner σ) : Inner σ :=
  fun node expression trail =>
    match expression with
    | .this => engine.evaluateThis policyId subject inner node trail
    | .computedUserset computedRelation =>
      engine.visitNode policyId subject inner trail ⟨node.resource, node.objectId, computedRelation⟩
    | .tupleToUserset tupleRelation computedRelation =>
      engine.evaluateTupleToUserset policyId subject inner node trail tupleRelation computedRelation
    | .union exprs =>
      firstGrant (fun expr => inner node expr trail) exprs false
    | .intersection exprs =>
      everyGrant (fun expr => inner node expr trail) exprs false
    | .difference base subtract =>
      evaluateDifference inner node trail base subtract

/-- Evaluate an expression.  The depth counter of the budget is released when
an evaluation ends, on every path, so it always equals the number of active
evaluations: the recursion is on what is left of it. -/
def evaluateExprInner : Nat → Inner σ
  | 0 => fun _ _ _ => do
      CheckCache.charge
      Exec.fail (.evaluationLimitExceeded "depth")
  | remaining + 1 => fun node expression trail => do
      CheckCache.charge
      engine.evaluateCases policyId subject (evaluateExprInner remaining) node expression trail

def checkWithCache (node : NodeId) : Exec (CheckCache σ) Error Bool := do
  let expression ← Exec.ofExcept (engine.lookup.getExpression policyId node.resource node.relation)
  let (granted, _) ←
    evaluateExprCached policyId subject
      (engine.evaluateExprInner policyId subject maxEvaluationDepth) node expression [node]
  pure granted

end PermissionEngine

structure PermissionCheckRequest where
  policyId : String
  resource : String
  objectId : String
  relation : String
  subject : Did

namespace PermissionCheckRequest

def node (request : PermissionCheckRequest) : NodeId :=
  ⟨request.resource, request.objectId, request.relation⟩

end PermissionCheckRequest

namespace PermissionEngine

variable {σ : Type} (engine : PermissionEngine σ)

def check (request : PermissionCheckRequest) : Exec σ Error Bool :=
  fun store =>
    let outcome :=
      (engine.checkWithCache request.policyId request.subject
        request.node).run (CheckCache.new store)
    (outcome.1, outcome.2.store)

/-- The requests of a batch in order; a failed one does not stop the next. -/
def checkEach : List PermissionCheckRequest → CheckCache σ → List (Except Error Bool) × CheckCache σ
  | [], cache => ([], cache)
  | request :: rest, cache =>
    let outcome := (engine.checkWithCache request.policyId request.subject request.node).run cache
    let remaining := checkEach rest outcome.2
    (outcome.1 :: remaining.1, remaining.2)

def checkMany (requests : List PermissionCheckRequest) (store : σ) :
    List (Except Error Bool) × CheckCache σ :=
  engine.checkEach requests (CheckCache.new store)

end PermissionEngine

end VeraHub.Zanzibar

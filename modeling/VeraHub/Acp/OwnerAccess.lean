import VeraHub.Acp.PolicyYaml
import VeraHub.Zanzibar.OwnerCheck

/-!
# Owners have every permission

The compiler joins each permission with the owner and puts the owner first.
The evaluation therefore grants an owner before it looks at the permission's
own expression, so nothing in that expression can deny the owner or fail.
-/

namespace VeraHub.Acp

open VeraHub.Zanzibar
open Exec (Wp run_bind)

/-! ## Evaluation -/

variable {expression : RelationExpression} {trail : NodeTrail} {depth : Nat}

section Evaluation

variable {σ : Type} (engine : PermissionEngine σ) (content : Content)
  (policyId : String) (subject : Did) (resource objectId : String)

/-- The store fails to say whether the subject is the stored owner. -/
def OwnerUnanswered (error : Error) : Prop :=
  ∃ state, ((engine.store.checkPermissionDirect policyId resource objectId
    "owner" subject).run state).1 = .error error

/-- A plain grant, unless the store fails or the steps run out after this
many. -/
def OwnerOutcome (last : Nat) : Except Error Eval → Prop
  | .ok decision => decision = (true, false)
  | .error error =>
    OwnerUnanswered engine policyId subject resource objectId error ∨
      (error = .evaluationLimitExceeded "steps" ∧ maxEvaluationSteps < last)

/-- A computation that grants the owner in the given number of steps. -/
def GrantsOwner (steps : Nat) (program : Exec (CheckCache σ) Error Eval) :
    Prop :=
  ∀ cache, CacheSound engine.lookup content cache →
    Wp program
      (fun result _ => OwnerOutcome engine policyId subject resource objectId
        (cache.steps + steps) result)
      cache

variable {engine content policyId subject resource objectId}

theorem OwnerOutcome.mono {last later : Nat} {result : Except Error Eval}
    (outcome : OwnerOutcome engine policyId subject resource objectId last
      result) (more : last ≤ later) :
    OwnerOutcome engine policyId subject resource objectId later result := by
  cases result with
  | ok decision => exact outcome
  | error error =>
    rcases outcome with failed | ⟨limit, few⟩
    · exact .inl failed
    · exact .inr ⟨limit, by omega⟩

theorem GrantsOwner.afterCharge {steps : Nat} {program : Exec (CheckCache σ) Error Eval}
    (grants : GrantsOwner engine content policyId subject resource objectId steps program) :
    GrantsOwner engine content policyId subject resource objectId (steps + 1)
      (CheckCache.charge >>= fun _ => program) := by
  intro cache sound
  by_cases left : cache.steps < maxEvaluationSteps
  · have charged : CheckCache.charge.run cache =
        (.ok (), { cache with steps := cache.steps + 1 }) := if_pos left
    have granted := grants { cache with steps := cache.steps + 1 } sound
    unfold Wp at granted ⊢
    rw [Exec.run_bind_of_ok charged]
    exact granted.mono (by simp only; omega)
  · have charged : CheckCache.charge.run cache =
        (.error (.evaluationLimitExceeded "steps"), cache) := if_neg left
    unfold Wp
    rw [run_bind, charged]
    exact .inr ⟨rfl, by omega⟩

theorem evaluateThis_grantsOwner (serves : engine.store.Serves content)
    (owned : Stored content policyId resource objectId "owner" (.entity subject))
    (inner : PermissionEngine.Inner σ) (trail : NodeTrail) :
    GrantsOwner engine content policyId subject resource objectId 0
      (engine.evaluateThis policyId subject inner ⟨resource, objectId, "owner"⟩ trail) := by
  intro cache sound
  unfold Wp PermissionEngine.evaluateThis
  rw [run_bind, CheckCache.run_onStore]
  match answer : (engine.store.checkPermissionDirect policyId resource
      objectId "owner" subject).run cache.store with
  | (.error error, final) =>
    refine .inl ⟨cache.store, ?_⟩
    rw [answer]
  | (.ok granted, final) =>
    have isGranted : granted = true :=
      (serves.checkPermissionDirect _ _ _ _ _ _ _ _ answer).mpr (.inl owned)
    simp only [isGranted, if_true]
    exact rfl

theorem evaluateExprCached_grantsOwner {inner : PermissionEngine.Inner σ}
    {node : NodeId} {steps : Nat} (granted : Granted engine.lookup content policyId subject node)
    (grants : GrantsOwner engine content policyId subject resource objectId
      (steps + 1) (inner node expression trail)) :
    GrantsOwner engine content policyId subject resource objectId (steps + 1)
      (PermissionEngine.evaluateExprCached policyId subject inner node
        expression trail) := by
  intro cache sound
  unfold PermissionEngine.evaluateExprCached
  refine Wp.gets ?_
  cases found : cache.get ⟨policyId, node, subject⟩ with
  | some cached =>
    have isTrue : cached = true := by
      cases cached with
      | true => rfl
      | false =>
        have refuted := (sound.get found).2 rfl
        have possible := granted.mono (RuleOperator.certain_subset_possible _)
        exact (refuted possible).elim
    rw [isTrue]
    have plain : GrantsOwner engine content policyId subject resource
        objectId steps (pure (true, false)) := by
      intro other _
      exact Wp.pure rfl
    exact plain.afterCharge cache sound
  | none =>
    refine Wp.bind ((grants cache sound).weaken ?_)
    intro result final outcome
    cases result with
    | error error => exact outcome
    | ok decision =>
      rw [show decision = (true, false) from outcome]
      exact Wp.modify (Wp.pure rfl)

theorem computedOwner_grantsOwner (serves : engine.store.Serves content)
    (direct : engine.lookup.getExpression policyId resource "owner" = .ok .this)
    (owned : Stored content policyId resource objectId "owner" (.entity subject))
    (remaining : Nat) (relation : String)
    (ahead : (⟨resource, objectId, "owner"⟩ : NodeId) ∉ trail) :
    GrantsOwner engine content policyId subject resource objectId 2
      (engine.evaluateExprInner policyId subject (remaining + 2)
        ⟨resource, objectId, relation⟩ (.computedUserset "owner") trail) := by
  refine GrantsOwner.afterCharge ?_
  change GrantsOwner engine content policyId subject resource objectId 1
    (engine.visitNode policyId subject _ trail ⟨resource, objectId, "owner"⟩)
  unfold PermissionEngine.visitNode
  rw [if_neg ahead, direct]
  have stored : Granted engine.lookup content policyId subject ⟨resource, objectId, "owner"⟩ :=
    @holdsAt_owner _ _ _ _ ⟨resource, objectId, relation⟩ direct owned
  have fresh := (evaluateThis_grantsOwner serves owned
    (engine.evaluateExprInner policyId subject remaining)
    (⟨resource, objectId, "owner"⟩ :: trail)).afterCharge
  exact evaluateExprCached_grantsOwner stored fresh

theorem GrantsOwner.union {steps remaining : Nat} {node : NodeId}
    {expression : RelationExpression} {trail : NodeTrail}
    (grants : GrantsOwner engine content policyId subject resource objectId
      steps (engine.evaluateExprInner policyId subject remaining node
        expression trail)) (rest : List RelationExpression) :
    GrantsOwner engine content policyId subject resource objectId (steps + 1)
      (engine.evaluateExprInner policyId subject (remaining + 1) node
        (.union (expression :: rest)) trail) := by
  refine GrantsOwner.afterCharge ?_
  intro cache sound
  refine Wp.bind ((grants cache sound).weaken ?_)
  intro result final outcome
  cases result with
  | error error => exact outcome
  | ok decision =>
    rw [show decision = (true, false) from outcome]
    exact Wp.pure rfl

/-- The owner comes first, below some unions. -/
inductive OwnerFirst : Nat → RelationExpression → Prop
  | owner : OwnerFirst 0 (.computedUserset "owner")
  | union {depth : Nat} {first : RelationExpression}
      (leads : OwnerFirst depth first) (rest : List RelationExpression) :
      OwnerFirst (depth + 1) (.union (first :: rest))

variable (leads : OwnerFirst depth expression)

include leads

theorem OwnerFirst.grantsOwner (serves : engine.store.Serves content)
    (direct : engine.lookup.getExpression policyId resource "owner" = .ok .this)
    (owned : Stored content policyId resource objectId "owner" (.entity subject)) (remaining : Nat)
    (relation : String) (ahead : (⟨resource, objectId, "owner"⟩ : NodeId) ∉ trail) :
    GrantsOwner engine content policyId subject resource objectId (depth + 2)
      (engine.evaluateExprInner policyId subject (remaining + depth + 2)
        ⟨resource, objectId, relation⟩ expression trail) := by
  induction leads with
  | owner =>
    exact computedOwner_grantsOwner serves direct owned remaining relation ahead
  | union leads rest ih =>
    exact GrantsOwner.union ih rest

theorem OwnerFirst.certain {node : NodeId}
    (holds : HoldsAt engine.lookup policyId
      (rewriteRules engine.lookup content policyId subject).certain
      ⟨node.resource, node.objectId, "owner"⟩) :
    (node, expression) ∈ (rewriteRules engine.lookup content policyId subject).certain := by
  induction leads with
  | owner => exact mem_certain_of_derives (.computedUserset holds)
  | union leads rest ih =>
    exact mem_certain_of_derives (.union List.mem_cons_self ih)

theorem OwnerFirst.checkWithCache {relation : String} (shallow : depth ≤ 62)
    (serves : engine.store.Serves content)
    (direct : engine.lookup.getExpression policyId resource "owner" = .ok .this)
    (declared : engine.lookup.getExpression policyId resource relation = .ok expression)
    (other : relation ≠ "owner")
    (owned : Stored content policyId resource objectId "owner" (.entity subject))
    {cache : CheckCache σ} (sound : CacheSound engine.lookup content cache) :
    (engine.checkWithCache policyId subject ⟨resource, objectId, relation⟩).Wp (fun result _ =>
        match result with
        | .ok granted => granted = true
        | .error error =>
          OwnerOutcome engine policyId subject resource objectId
            (cache.steps + (depth + 2)) (.error error))
      cache := by
  have ahead : (⟨resource, objectId, "owner"⟩ : NodeId) ∉
      [(⟨resource, objectId, relation⟩ : NodeId)] := by
    intro member
    have same := List.mem_singleton.mp member
    exact other (congrArg NodeId.relation same).symm
  have holds : HoldsAt engine.lookup policyId
      (rewriteRules engine.lookup content policyId subject).certain ⟨resource, objectId, "owner"⟩ :=
    @holdsAt_owner _ _ _ _ ⟨resource, objectId, relation⟩ direct owned
  have granted : Granted engine.lookup content policyId subject ⟨resource, objectId, relation⟩ :=
    ⟨expression, declared, leads.certain holds⟩
  have inner := leads.grantsOwner serves direct owned (62 - depth) relation ahead
  have depths : 62 - depth + depth + 2 = maxEvaluationDepth := by
    unfold maxEvaluationDepth
    omega
  rw [depths] at inner
  refine Wp.ofExcept ?_ fun found isFound => ?_
  · intro error failed
    rw [declared] at failed
    cases failed
  rw [declared] at isFound
  cases isFound
  refine Wp.bind ((evaluateExprCached_grantsOwner granted inner cache sound).weaken ?_)
  intro result final outcome
  cases result with
  | error error => exact outcome
  | ok decision =>
    rw [show decision = (true, false) from outcome]
    exact Wp.pure rfl

end Evaluation

/-! ## Compiled policies -/

variable {relation : Relation} {parsed : ParsedPolicy}

section Compiled

theorem buildRelation_expression {parsed : PolicyRelation} (built : buildRelation parsed = .ok relation) :
    relation.expression = .this := by
  obtain ⟨restriction, restricted, made⟩ := exceptBind_ok built
  cases made
  rfl

theorem ownerRelation_expression {parsed : PolicyResource} (built : ownerRelation parsed = .ok relation) :
    relation.expression = .this := by
  unfold ownerRelation at built
  cases found : parsed.relations.find? fun candidate =>
      candidate.name = "owner" with
  | none =>
    simp only [found] at built
    cases built
    rfl
  | some owner =>
    simp only [found] at built
    exact buildRelation_expression built

variable {permission : PolicyPermission} {spec : PolicySpecification}

theorem buildPermission_ownerFirst (built : buildPermission spec permission = .ok relation) :
    relation.name = permission.name ∧ ∃ depth ≤ 2, OwnerFirst depth relation.expression := by
  have joined : ∀ granted depth, OwnerFirst depth granted → depth ≤ 1 →
      ∃ total ≤ 2, OwnerFirst total (if spec = .defra ∧ permission.name = "read" then
          .union [granted, .computedUserset "write"]
        else granted) := by
    intro granted depth leads shallow
    by_cases defra : spec = .defra ∧ permission.name = "read"
    · rw [if_pos defra]
      exact ⟨depth + 1, by omega, .union leads _⟩
    · rw [if_neg defra]
      exact ⟨depth, by omega, leads⟩
  unfold buildPermission at built
  by_cases empty : permission.expr = ""
  · simp only [if_pos empty] at built
    cases built
    exact ⟨rfl, joined _ 0 .owner (by omega)⟩
  · simp only [if_neg empty] at built
    cases read : RelationExpression.parse permission.expr with
    | error error =>
      simp only [read] at built
      cases built
    | ok expression =>
      simp only [read] at built
      cases built
      exact ⟨rfl, joined _ 1 (.union .owner _) (by omega)⟩

variable {names known : List String}

theorem relationNames_ok {withOwner : Bool} {relations : List PolicyRelation}
    (accepted : Schema.relationNames withOwner relations names = .ok known) :
    (∀ name ∈ names, name ∈ known) ∧
      (∀ relation ∈ relations, relation.name ∈ known) ∧ (withOwner = true → "owner" ∈ known) := by
  induction relations generalizing names with
  | nil =>
    cases accepted
    cases withOwner with
    | true => simp +contextual
    | false => simp
  | cons relation rest ih =>
    obtain ⟨_, _, afterName⟩ := exceptBind_ok accepted
    split at afterName
    · cases afterName
    split at afterName
    · cases afterName
    obtain ⟨kept, listed, owner⟩ := ih afterName
    refine ⟨?_, ?_, owner⟩
    · intro name member
      exact kept name (List.mem_append_left _ member)
    · intro other member
      rcases List.mem_cons.mp member with isFirst | inRest
      · rw [isFirst]
        exact kept relation.name (by simp)
      · exact listed other inRest

theorem permissionNames_ok {permissions : List PolicyPermission}
    (accepted : Schema.permissionNames permissions names = .ok known) :
    (permissions.map PolicyPermission.name).Nodup ∧
      ∀ permission ∈ permissions, permission.name ∉ names := by
  induction permissions generalizing names with
  | nil => exact ⟨.nil, fun _ member => (nomatch member)⟩
  | cons permission rest ih =>
    obtain ⟨_, _, afterName⟩ := exceptBind_ok accepted
    split at afterName
    · cases afterName
    rename_i fresh
    obtain ⟨distinct, apart⟩ := ih afterName
    constructor
    · rw [List.map_cons, List.nodup_cons]
      refine ⟨?_, distinct⟩
      intro repeated
      obtain ⟨other, member, same⟩ := List.mem_map.mp repeated
      exact apart other member (by simp [same])
    · intro other member
      rcases List.mem_cons.mp member with isFirst | inRest
      · rw [isFirst]
        exact fresh
      · intro known
        exact apart other inRest (List.mem_append_left _ known)

/-- The names of a resource's permissions are its own. -/
def PermissionsNamed (resource : PolicyResource) : Prop :=
  (resource.permissions.map PolicyPermission.name).Nodup ∧
    ∀ permission ∈ resource.permissions,
      permission.name ≠ "owner" ∧ ∀ relation ∈ resource.relations, relation.name ≠ permission.name

theorem resourceNames_ok {resources : List PolicyResource}
    {names known : List (String × List String)}
    (accepted : Schema.resourceNames resources names = .ok known) :
    (resources.map PolicyResource.name).Nodup ∧
      ∀ resource ∈ resources, resource.name ≠ "actor" ∧
        resource.name ∉ names.map Prod.fst ∧ PermissionsNamed resource := by
  induction resources generalizing names with
  | nil => exact ⟨.nil, fun _ member => (nomatch member)⟩
  | cons resource rest ih =>
    obtain ⟨_, _, afterName⟩ := exceptBind_ok accepted
    split at afterName
    · cases afterName
    rename_i fresh
    push Not at fresh
    obtain ⟨relations, related, afterRelations⟩ := exceptBind_ok afterName
    obtain ⟨all, permitted, remaining⟩ := exceptBind_ok afterRelations
    obtain ⟨distinct, others⟩ := ih remaining
    obtain ⟨_, listed, owner⟩ := relationNames_ok related
    obtain ⟨distinctNames, apart⟩ := permissionNames_ok permitted
    constructor
    · rw [List.map_cons, List.nodup_cons]
      refine ⟨?_, distinct⟩
      intro repeated
      obtain ⟨other, member, same⟩ := List.mem_map.mp repeated
      exact (others other member).2.1 (by simp [same])
    intro other member
    rcases List.mem_cons.mp member with isFirst | inRest
    · rw [isFirst]
      refine ⟨fresh.1, ?_, distinctNames, ?_⟩
      · intro repeated
        obtain ⟨entry, listedEntry, same⟩ := List.mem_map.mp repeated
        exact fresh.2 (by
          rw [← same]
          exact List.lookup_isSome_iff.mpr ⟨entry, listedEntry, by simp⟩)
      · intro permission declared
        have unknown := apart permission declared
        refine ⟨?_, ?_⟩
        · intro isOwner
          exact unknown (isOwner ▸ owner rfl)
        · intro relation member same
          exact unknown (same ▸ listed relation member)
    · obtain ⟨notActor, unlisted, named⟩ := others other inRest
      refine ⟨notActor, ?_, named⟩
      intro repeated
      exact unlisted (by simp [repeated])

theorem checkDefinition_names (checked : checkDefinition parsed = .ok ()) :
    (parsed.resources.map PolicyResource.name).Nodup ∧
      ∀ resource ∈ parsed.resources, resource.name ≠ "actor" ∧ PermissionsNamed resource := by
  obtain ⟨_, validated, _⟩ := exceptBind_ok checked
  unfold Schema.validate at validated
  split at validated
  · cases validated
  obtain ⟨names, named, _⟩ := exceptBind_ok validated
  obtain ⟨distinct, each⟩ := resourceNames_ok named
  refine ⟨distinct, fun resource member => ?_⟩
  obtain ⟨notActor, _, permissions⟩ := each resource member
  exact ⟨notActor, permissions⟩

theorem buildResource_relations {parsed : PolicyResource} {resource : Resource}
    (built : buildResource spec parsed = .ok resource) :
    resource.name = parsed.name ∧
      (∃ owner ∈ resource.relations, owner.name = "owner" ∧ owner.expression = .this) ∧
      (∀ permission ∈ parsed.permissions, ∃ relation ∈ resource.relations,
        buildPermission spec permission = .ok relation) ∧
      ∀ relation ∈ resource.relations,
        (relation.name = "owner" ∧ relation.expression = .this) ∨
          (∃ source ∈ parsed.relations, relation.name = source.name ∧ relation.expression = .this) ∨
          ∃ permission ∈ parsed.permissions, buildPermission spec permission = .ok relation := by
  obtain ⟨owner, owned, afterOwner⟩ := exceptBind_ok built
  obtain ⟨relations, related, afterRelations⟩ := exceptBind_ok afterOwner
  obtain ⟨permissions, permitted, made⟩ := exceptBind_ok afterRelations
  cases made
  have ownerFacts := And.intro (ownerRelation_name owned) (ownerRelation_expression owned)
  refine ⟨rfl, ⟨owner, by simp, ownerFacts⟩, ?_, ?_⟩
  · intro permission member
    obtain ⟨relation, listed, same⟩ := exists_of_mapM_ok permitted permission member
    exact ⟨relation, by simp [listed], same⟩
  · intro relation member
    simp only [List.cons_append, List.mem_cons, List.mem_append] at member
    rcases member with isOwner | isRelation | isPermission
    · rw [isOwner]
      exact .inl ownerFacts
    · obtain ⟨source, listed, same⟩ := mem_of_mapM_ok related relation isRelation
      exact .inr (.inl ⟨source, (List.mem_filter.mp listed).1,
        buildRelation_name same, buildRelation_expression same⟩)
    · exact .inr (.inr (mem_of_mapM_ok permitted relation isPermission))

theorem assemblePolicy_resources {id : String}
    {policy : Policy} (built : assemblePolicy id parsed = .ok policy) :
    (∀ source ∈ parsed.resources, ∃ resource ∈ policy.resources,
      buildResource parsed.spec source = .ok resource) ∧
    (∀ resource ∈ policy.resources, ∃ source ∈ parsed.resources,
      buildResource parsed.spec source = .ok resource) ∧
    ∀ actor ∈ policy.actor.toList, actor.name = "actor" := by
  obtain ⟨resources, resourced, afterResources⟩ := exceptBind_ok built
  obtain ⟨actorRelations, acted, made⟩ := exceptBind_ok afterResources
  cases made
  refine ⟨exists_of_mapM_ok resourced, mem_of_mapM_ok resourced, ?_⟩
  intro actor member
  rw [List.mem_singleton.mp member]

/-- In a compiled policy the owner is stored, and permissions put it first. -/
theorem buildPolicy_lookup {sha256 : Bytes → Bytes} {counter : UInt64} {policy : Policy}
    {source : PolicyResource} (built : buildPolicy sha256 parsed counter = .ok policy)
    (listed : source ∈ parsed.resources) (declared : permission ∈ source.permissions) :
    (PolicyLookupTable.new.addPolicy policy).getExpression policy.id
        source.name "owner" = .ok .this ∧
      permission.name ≠ "owner" ∧
        ∃ depth ≤ 2, ∃ expression, OwnerFirst depth expression ∧
          (PolicyLookupTable.new.addPolicy policy).getExpression policy.id
            source.name permission.name = .ok expression := by
  obtain ⟨checked, made, _⟩ := buildPolicy_ok built
  obtain ⟨distinct, named⟩ := checkDefinition_names checked
  obtain ⟨compiled, sources, actors⟩ := assemblePolicy_resources made
  obtain ⟨resource, member, ofSource⟩ := compiled source listed
  obtain ⟨notActor, distinctPermissions, permissionNamed⟩ := named source listed
  obtain ⟨resourceName, ⟨owner, ownerMember, ownerName, ownerThis⟩,
    permissions, origins⟩ := buildResource_relations ofSource
  have inAll : resource ∈ policy.resources ++ policy.actor.toList := List.mem_append_left _ member
  have alone : ∀ other ∈ policy.resources ++ policy.actor.toList,
      other.name = resource.name → other = resource := by
    intro other otherMember sameName
    rcases List.mem_append.mp otherMember with ordinary | isActor
    · obtain ⟨otherSource, otherListed, ofOther⟩ := sources other ordinary
      have otherName := (buildResource_relations ofOther).1
      have sameSource : otherSource = source := by
        apply List.inj_on_of_nodup_map distinct otherListed listed
        rw [← otherName, ← resourceName, sameName]
      rw [sameSource, ofSource] at ofOther
      exact (Except.ok.inj ofOther).symm
    · rw [actors other isActor, resourceName] at sameName
      exact (notActor sameName.symm).elim
  refine ⟨?_, (permissionNamed permission declared).1, ?_⟩
  · have found := PolicyLookupTable.getExpression_of_unique inAll alone ownerMember (by
        intro other otherMember sameName
        rcases origins other otherMember with isOwner | isRelation | isOther
        · rw [isOwner.2, ownerThis]
        · obtain ⟨_, _, _, isThis⟩ := isRelation
          rw [isThis, ownerThis]
        · obtain ⟨otherPermission, otherDeclared, ofOther⟩ := isOther
          have otherName := (buildPermission_ownerFirst ofOther).1
          rw [otherName, ownerName] at sameName
          exact ((permissionNamed otherPermission otherDeclared).1 sameName).elim)
    rw [resourceName, ownerName, ownerThis] at found
    exact found
  · obtain ⟨relation, relationMember, ofPermission⟩ := permissions permission declared
    obtain ⟨relationName, depth, shallow, leads⟩ := buildPermission_ownerFirst ofPermission
    refine ⟨depth, shallow, relation.expression, leads, ?_⟩
    have found := PolicyLookupTable.getExpression_of_unique inAll alone relationMember (by
        intro other otherMember sameName
        rw [relationName] at sameName
        rcases origins other otherMember with isOwner | isRelation | isOther
        · rw [isOwner.1] at sameName
          exact ((permissionNamed permission declared).1 sameName.symm).elim
        · obtain ⟨origin, originMember, originName, _⟩ := isRelation
          rw [originName] at sameName
          exact ((permissionNamed permission declared).2 origin originMember sameName).elim
        · obtain ⟨otherPermission, otherDeclared, ofOther⟩ := isOther
          have otherName := (buildPermission_ownerFirst ofOther).1
          have samePermission : otherPermission = permission :=
            List.inj_on_of_nodup_map distinctPermissions otherDeclared
              declared (otherName.symm.trans sameName)
          rw [samePermission, ofPermission] at ofOther
          rw [Except.ok.inj ofOther])
    rw [resourceName, relationName] at found
    exact found

end Compiled

/-! ## Checks -/

section Checks

variable {σ : Type} {engine : PermissionEngine σ} {content : Content}

/-- A grant, or a failure of the budget or of the store. -/
def GrantedOrFailed (engine : PermissionEngine σ)
    (request : PermissionCheckRequest) (result : Except Error Bool) : Prop :=
  result = .ok true ∨
    (∃ limit, result = .error (.evaluationLimitExceeded limit)) ∨
      ∃ error, result = .error error ∧
        OwnerUnanswered engine request.policyId request.subject
          request.resource request.objectId error

theorem OwnerFirst.checkWithCache_grantedOrFailed {owner : PermissionCheckRequest}
    (leads : OwnerFirst depth expression) (shallow : depth ≤ 62)
    (serves : engine.store.Serves content)
    (direct : engine.lookup.getExpression owner.policyId owner.resource "owner" = .ok .this)
    (declared : engine.lookup.getExpression owner.policyId owner.resource
      owner.relation = .ok expression)
    (other : owner.relation ≠ "owner")
    (owned : Stored content owner.policyId owner.resource owner.objectId
      "owner" (.entity owner.subject))
    (cache : CheckCache σ) (sound : CacheSound engine.lookup content cache) :
    GrantedOrFailed engine owner
      ((engine.checkWithCache owner.policyId owner.subject owner.node).run cache).1 := by
  have outcome := leads.checkWithCache shallow serves direct declared other owned sound
  unfold Wp at outcome
  change GrantedOrFailed engine owner ((engine.checkWithCache owner.policyId
    owner.subject ⟨owner.resource, owner.objectId, owner.relation⟩).run cache).1
  cases result : ((engine.checkWithCache owner.policyId owner.subject
      ⟨owner.resource, owner.objectId, owner.relation⟩).run cache).1 with
  | ok granted =>
    rw [result] at outcome
    exact .inl (congrArg Except.ok outcome)
  | error error =>
    rw [result] at outcome
    rcases outcome with unanswered | ⟨limit, _⟩
    · exact .inr (.inr ⟨error, rfl, unanswered⟩)
    · exact .inr (.inl ⟨_, congrArg Except.error limit⟩)

theorem checkEach_grantedOrFailed
    (serves : engine.store.Serves content) (owner : PermissionCheckRequest)
    (single : ∀ cache, CacheSound engine.lookup content cache →
      GrantedOrFailed engine owner
        ((engine.checkWithCache owner.policyId owner.subject owner.node).run cache).1)
    (requests : List PermissionCheckRequest) {cache : CheckCache σ}
    (sound : CacheSound engine.lookup content cache) : List.Forall₂ (fun request result =>
        request = owner → GrantedOrFailed engine owner result)
      requests (engine.checkEach requests cache).1 := by
  induction requests generalizing cache with
  | nil => exact .nil
  | cons request rest ih =>
    have nextSound := (checkWithCache_step serves request sound).2
    refine .cons ?_ (ih nextSound)
    intro isOwner
    rw [isOwner]
    exact single cache sound

end Checks

/-- The stored owner of an object has every permission of a compiled policy:
a check grants it, and so does every check of a batch over any store, unless
the budget runs out or the store fails. -/
theorem owner_has_every_permission (sha256 : Bytes → Bytes)
    (parsed : ParsedPolicy) (counter : UInt64) (policy : Policy)
    (built : buildPolicy sha256 parsed counter = .ok policy)
    (source : PolicyResource) (listed : source ∈ parsed.resources) (permission : PolicyPermission)
    (declared : permission ∈ source.permissions)
    (content : Content) (objectId : String) (actor : Did)
    (owned : Stored content policy.id source.name objectId "owner" (.entity actor)) :
    (((policyEngine policy content).check
      ⟨policy.id, source.name, objectId, permission.name, actor⟩).run ()).1 = .ok true ∧
    ∀ (σ : Type) (store : ZanzibarStore σ), store.Serves content →
      ∀ state requests, List.Forall₂ (fun request result =>
            request = ⟨policy.id, source.name, objectId, permission.name, actor⟩ →
              GrantedOrFailed ⟨store, PolicyLookupTable.new.addPolicy policy⟩ request result)
          requests
          ((⟨store, PolicyLookupTable.new.addPolicy policy⟩ :
            PermissionEngine σ).checkMany requests state).1 := by
  obtain ⟨direct, other, depth, shallow, expression, leads, found⟩ :=
    buildPolicy_lookup built listed declared
  constructor
  · have outcome : ((policyEngine policy content).checkWithCache policy.id
        actor ⟨source.name, objectId, permission.name⟩).Wp _ (CheckCache.new ()) :=
      leads.checkWithCache (by omega) (contentStore_serves content) direct
        found other owned (cacheSound_new ())
    change (((policyEngine policy content).checkWithCache policy.id actor
      ⟨source.name, objectId, permission.name⟩).run (CheckCache.new ())).1 = .ok true
    unfold Wp at outcome
    cases result : (((policyEngine policy content).checkWithCache policy.id
        actor ⟨source.name, objectId, permission.name⟩).run (CheckCache.new ())).1 with
    | ok granted =>
      rw [result] at outcome
      rw [show granted = true from outcome]
    | error error =>
      rw [result] at outcome
      rcases outcome with ⟨state, failed⟩ | ⟨_, few⟩
      · cases failed
      · simp only [CheckCache.new, maxEvaluationSteps] at few
        omega
  · intro σ store serves state requests
    let engine : PermissionEngine σ := ⟨store, PolicyLookupTable.new.addPolicy policy⟩
    let owner : PermissionCheckRequest := ⟨policy.id, source.name, objectId, permission.name, actor⟩
    have single : ∀ cache, CacheSound engine.lookup content cache →
        GrantedOrFailed engine owner ((engine.checkWithCache owner.policyId
          owner.subject owner.node).run cache).1 :=
      leads.checkWithCache_grantedOrFailed (by omega) serves direct found other owned
    refine List.Forall₂.imp ?_ (checkEach_grantedOrFailed serves owner single
      requests (cacheSound_new state))
    intro request result granted isOwner
    rw [isOwner]
    exact granted isOwner

/-! ### A permission that excludes the owner -/

/-- Readers may read, but the owner is excluded from them. -/
def guardedParsed : ParsedPolicy where
  name := "files"
  description := ""
  spec := .none
  metadata := []
  actorRelations := []
  resources := [⟨"file", "", [⟨"read", "", "reader - owner"⟩], [⟨"reader", "", [], []⟩]⟩]

/-- The digest of the names in the definition, and of the first policy. -/
def guardedSha256 (input : Bytes) : Bytes :=
  if input = utf8 "filesfilereaderreadreader - owner" then
    [107, 75, 199, 231, 144, 154, 37, 158, 78, 3, 236, 31, 46, 133, 189, 206,
      211, 32, 213, 217, 157, 156, 10, 199, 224, 137, 148, 228, 225, 209, 80, 131]
  else
    [72, 52, 247, 213, 28, 84, 70, 167, 47, 202, 87, 215, 133, 4, 236, 210,
      115, 125, 211, 63, 79, 137, 198, 141, 133, 11, 205, 181, 111, 176, 105, 37]

theorem guarded_owner_reads :
    ∃ policy, buildPolicy guardedSha256 guardedParsed 1 = .ok policy ∧
      (((policyEngine policy [(policy.id, ⟨"file", "report", "owner", .entity alice⟩)]).check
        ⟨policy.id, "file", "report", "read", alice⟩).run ()).1 =
          .ok true := by
  have accepted : (buildPolicy guardedSha256 guardedParsed 1).toOption.isSome = true := by
    decide +kernel
  cases built : buildPolicy guardedSha256 guardedParsed 1 with
  | error error =>
    rw [built] at accepted
    cases accepted
  | ok policy =>
    refine ⟨policy, rfl, ?_⟩
    exact (owner_has_every_permission guardedSha256 guardedParsed 1 policy
      built ⟨"file", "", [⟨"read", "", "reader - owner"⟩],
        [⟨"reader", "", [], []⟩]⟩ List.mem_cons_self
      ⟨"read", "", "reader - owner"⟩ List.mem_cons_self _ "report" alice List.mem_cons_self).1

end VeraHub.Acp

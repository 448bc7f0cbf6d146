import VeraHub.Zanzibar.Decision

/-!
# Explanations

An explanation evaluates the request with a second evaluator, which records
what it does in a trace.  It follows computed relations and stored entity sets
without looking in the cache and drops their taints; below an arrow or an
operator it uses the evaluator of checks.  A granted explanation and a denied
one still decide the trail-free meaning of the request, so they agree with the
check.
-/

namespace VeraHub.Zanzibar

/-! ## Traces -/

def NodeId.describe (node : NodeId) : String :=
  node.resource ++ ":" ++ node.objectId ++ "#" ++ node.relation

inductive StepResult where
  | granted
  | denied
  | skipped
  | continuing
deriving DecidableEq, Repr

def StepResult.ofBool (result : Bool) : StepResult :=
  if result then .granted else .denied

structure EvaluationStep where
  expressionType : String
  resource : String
  objectId : String
  relation : String
  result : StepResult
  details : Option String
deriving DecidableEq, Repr

structure EvaluationTrace where
  steps : List EvaluationStep
deriving DecidableEq, Repr

namespace EvaluationTrace

def new : EvaluationTrace :=
  ⟨[]⟩

def addStep (trace : EvaluationTrace) (step : EvaluationStep) :
    EvaluationTrace :=
  ⟨trace.steps ++ [step]⟩

def record (trace : EvaluationTrace) (expressionType : String) (node : NodeId)
    (result : StepResult) (details : Option String) : EvaluationTrace :=
  trace.addStep ⟨expressionType, node.resource, node.objectId, node.relation, result, details⟩

end EvaluationTrace

structure PermissionExplanation where
  granted : Bool
  resource : String
  objectId : String
  relation : String
  subject : String
  trace : EvaluationTrace
deriving DecidableEq, Repr

/-- A traced decision: a failure drops the trace with the explanation. -/
abbrev Traced (σ : Type) : Type :=
  EvaluationTrace → Exec (CheckCache σ) Error (Bool × EvaluationTrace)

def traceFirstGrant {σ α : Type} (visit : α → Traced σ) : List α → Traced σ
  | [], trace => pure (false, trace)
  | item :: rest, trace => do
      let (granted, trace) ← visit item trace
      if granted then pure (true, trace)
      else traceFirstGrant visit rest trace

def traceEveryGrant {σ α : Type} (visit : α → Traced σ) : List α → Traced σ
  | [], trace => pure (true, trace)
  | item :: rest, trace => do
      let (granted, trace) ← visit item trace
      if granted then traceEveryGrant visit rest trace
      else pure (false, trace)

namespace PermissionEngine

variable {σ : Type} (engine : PermissionEngine σ) (policyId : String) (subject : Did)

/-- Traced evaluation of an expression at a node, under a trail. -/
abbrev TracedInner (σ : Type) : Type :=
  NodeId → RelationExpression → NodeTrail → Traced σ

/-! ## The tracing evaluator -/

/-- One stored subject of the evaluated relation itself. -/
def traceThisSubject (traced : TracedInner σ) (trail : NodeTrail) : Subject → Traced σ
  | .entitySet resource objectId relation, trace => do
      CheckCache.charge
      if relation = "" then
        if engine.lookup.isActorResource policyId resource = true ∧ objectId = subject.asStr then
          pure (true, trace.record "Actor" ⟨resource, objectId, relation⟩
            .granted (some "Actor object matches the requested identity"))
        else
          pure (false, trace)
      else if (⟨resource, objectId, relation⟩ : NodeId) ∈ trail then
        pure (false, trace)
      else
        let expression ← Exec.ofExcept (engine.lookup.getExpression policyId resource relation)
        traced ⟨resource, objectId, relation⟩ expression
          (⟨resource, objectId, relation⟩ :: trail) trace
  | _, trace => do
      CheckCache.charge
      pure (false, trace)

def traceThis (traced : TracedInner σ) (node : NodeId) (trail : NodeTrail) :
    Traced σ := fun trace => do
  let result ← CheckCache.onStore
    (engine.store.checkPermissionDirect policyId node.resource node.objectId node.relation subject)
  let trace := trace.record "This (direct lookup)" node (.ofBool result)
    (some ("Direct tuple check for subject " ++ subject.asStr))
  if result then
    pure (true, trace)
  else
    let subjects ← CheckCache.onStore
      (engine.store.getRelationSubjects policyId node.resource node.objectId node.relation)
    traceFirstGrant (engine.traceThisSubject policyId subject traced trail) subjects trace

def traceComputedUserset (traced : TracedInner σ) (node : NodeId)
    (trail : NodeTrail) (computedRelation : String) : Traced σ := fun trace =>
  let target : NodeId := ⟨node.resource, node.objectId, computedRelation⟩
  if target ∈ trail then
    pure (false, trace.record "ComputedUserset" target .skipped
      (some "Cycle detected, returning false"))
  else do
    let trace := trace.record "ComputedUserset" target .continuing
      (some ("Checking relation '" ++ computedRelation ++ "' on same object"))
    let expression ← Exec.ofExcept
      (engine.lookup.getExpression policyId node.resource computedRelation)
    let (result, trace) ← traced target expression (target :: trail) trace
    pure (result, trace.record "ComputedUserset (result)" target (.ofBool result) none)

def traceTarget (inner : Inner σ) (trail : NodeTrail)
    (computedRelation : String) (target : ObjectRef) : Traced σ :=
  fun trace => do
    CheckCache.charge
    let node : NodeId := ⟨target.resource, target.objectId, computedRelation⟩
    if node ∈ trail then
      pure (false, trace.record "TTU target" node .skipped (some "Cycle detected"))
    else
      let expression ← Exec.ofExcept
        (engine.lookup.getExpression policyId node.resource node.relation)
      let (granted, _) ← evaluateExprCached policyId subject inner node expression (node :: trail)
      if granted then
        pure (true, trace.record "TTU target match" node .granted
          (some ("Found permission via " ++ node.describe)))
      else
        pure (false, trace)

def traceTupleSubject (inner : Inner σ) (node : NodeId) (trail : NodeTrail)
    (tupleRelation computedRelation : String) : Subject → Traced σ
  | .entitySet resource objectId _, trace => do
      CheckCache.charge
      let target : NodeId := ⟨resource, objectId, computedRelation⟩
      if target ∈ trail then
        pure (false, trace)
      else
        let expression ← Exec.ofExcept
          (engine.lookup.getExpression policyId target.resource target.relation)
        let (granted, _) ← evaluateExprCached policyId subject inner target
          expression (target :: trail)
        if granted then
          pure (true, trace.record "TTU EntitySet match" target .granted
            (some ("Found permission via EntitySet " ++ target.describe)))
        else
          pure (false, trace)
  | .entity _, trace => do
      CheckCache.charge
      pure (false, trace)
  | _, trace => do
      CheckCache.charge
      pure (true, trace.record "TTU Wildcard" ⟨node.resource, node.objectId, tupleRelation⟩ .granted
        (some "Wildcard on tuple relation grants access"))

def traceTupleToUserset (inner : Inner σ) (node : NodeId) (trail : NodeTrail)
    (tupleRelation computedRelation : String) : Traced σ := fun trace => do
  let trace := trace.record "TupleToUserset" node .continuing
    (some ("Following '" ++ tupleRelation ++ "' to check '" ++ computedRelation ++ "'"))
  let targets ← CheckCache.onStore
    (engine.store.getRelationTargets policyId node.resource node.objectId tupleRelation)
  let (granted, trace) ←
    traceFirstGrant (engine.traceTarget policyId subject inner trail computedRelation) targets trace
  if granted then
    pure (true, trace)
  else
    let subjects ← CheckCache.onStore
      (engine.store.getRelationSubjects policyId node.resource node.objectId tupleRelation)
    let (granted, trace) ←
      traceFirstGrant
        (engine.traceTupleSubject policyId subject inner node trail tupleRelation computedRelation)
        subjects trace
    if granted then
      pure (true, trace)
    else
      pure (false, trace.record "TupleToUserset (result)" node .denied
        (some "No matching TTU path found"))

def traceUnionBranch (inner : Inner σ) (node : NodeId) (trail : NodeTrail)
    (branch : RelationExpression × Nat) : Traced σ := fun trace => do
  let (granted, _) ← inner node branch.1 trail
  if granted then
    pure (true, trace.record ("Union branch " ++ toString (branch.2 + 1)) node .granted
      (some "Branch succeeded, short-circuiting"))
  else
    pure (false, trace)

def traceUnion (inner : Inner σ) (node : NodeId) (trail : NodeTrail)
    (exprs : List RelationExpression) : Traced σ := fun trace => do
  let trace := trace.record "Union" node .continuing
    (some ("Evaluating " ++ toString exprs.length ++ " branches (OR)"))
  let (granted, trace) ← traceFirstGrant (traceUnionBranch inner node trail) exprs.zipIdx trace
  if granted then
    pure (true, trace)
  else
    pure (false, trace.record "Union (result)" node .denied (some "All branches failed"))

def traceIntersectionBranch (inner : Inner σ) (node : NodeId)
    (trail : NodeTrail) (branch : RelationExpression × Nat) : Traced σ :=
  fun trace => do
    let (granted, _) ← inner node branch.1 trail
    if granted then
      pure (true, trace)
    else
      pure (false, trace.record ("Intersection branch " ++ toString (branch.2 + 1)) node .denied
        (some "Branch failed, short-circuiting"))

def traceIntersection (inner : Inner σ) (node : NodeId) (trail : NodeTrail)
    (exprs : List RelationExpression) : Traced σ := fun trace => do
  let trace := trace.record "Intersection" node .continuing
    (some ("Evaluating " ++ toString exprs.length ++ " branches (AND)"))
  let (granted, trace) ←
    traceEveryGrant (traceIntersectionBranch inner node trail) exprs.zipIdx trace
  if granted then
    pure (true, trace.record "Intersection (result)" node .granted (some "All branches succeeded"))
  else
    pure (false, trace)

def traceDifference (inner : Inner σ) (node : NodeId) (trail : NodeTrail)
    (base subtract : RelationExpression) : Traced σ := fun trace => do
  let trace := trace.record "Difference" node .continuing (some "Evaluating base AND NOT subtract")
  let (baseResult, _) ← inner node base trail
  if baseResult then
    let (subtractResult, subtractTainted) ← inner node subtract trail
    if subtractTainted then
      Exec.fail .indeterminateExclusion
    else
      let finalResult := !subtractResult
      pure (finalResult, trace.record "Difference (result)" node (.ofBool finalResult)
        (some ("Base=true, Subtract=" ++ toString subtractResult ++
          ", Result=" ++ toString finalResult)))
  else
    pure (false, trace.record "Difference (base)" node .denied (some "Base expression failed"))

/-- The cases of the expression: stored entity sets and computed relations are
traced further, everything else is evaluated as a check does. -/
def traceCases (traced : TracedInner σ) (inner : Inner σ) : TracedInner σ :=
  fun node expression trail =>
    match expression with
    | .this => engine.traceThis policyId subject traced node trail
    | .computedUserset computedRelation =>
      engine.traceComputedUserset policyId traced node trail computedRelation
    | .tupleToUserset tupleRelation computedRelation =>
      engine.traceTupleToUserset policyId subject inner node trail tupleRelation computedRelation
    | .union exprs => traceUnion inner node trail exprs
    | .intersection exprs => traceIntersection inner node trail exprs
    | .difference base subtract =>
      traceDifference inner node trail base subtract

/-- Evaluate an expression with a trace, within the same budget. -/
def evaluateExprWithTrace : Nat → TracedInner σ
  | 0 => fun _ _ _ _ => do
      CheckCache.charge
      Exec.fail (.evaluationLimitExceeded "depth")
  | remaining + 1 => fun node expression trail trace => do
      CheckCache.charge
      engine.traceCases policyId subject (evaluateExprWithTrace remaining)
        (engine.evaluateExprInner policyId subject remaining) node expression trail trace

def explainWithCache (request : PermissionCheckRequest) :
    Exec (CheckCache σ) Error PermissionExplanation := do
  let node := request.node
  let expression ← Exec.ofExcept
    (engine.lookup.getExpression request.policyId node.resource node.relation)
  let (granted, trace) ← engine.evaluateExprWithTrace request.policyId
    request.subject maxEvaluationDepth node expression [node] .new
  pure
    { granted := granted
      resource := request.resource
      objectId := request.objectId
      relation := request.relation
      subject := request.subject.asStr
      trace := trace }

def explain (request : PermissionCheckRequest) :
    Exec σ Error PermissionExplanation :=
  fun store =>
    let outcome := (engine.explainWithCache request).run (CheckCache.new store)
    (outcome.1, outcome.2.store)

end PermissionEngine

/-! ## Traced decisions -/

section Evaluation

variable {σ : Type} {engine : PermissionEngine σ} {content : Content}
  {policyId : String} {subject : Did} {trail : NodeTrail}

theorem exists_zipIdx {α : Type} (holds : α → Prop) {items : List α} :
    (∃ entry ∈ items.zipIdx, holds entry.1) ↔ ∃ item ∈ items, holds item := by
  conv_rhs => rw [← List.zipIdx_map_fst 0 items]
  simp only [List.mem_map, exists_exists_and_eq_and]

theorem forall_zipIdx {α : Type} (holds : α → Prop) {items : List α} :
    (∀ entry ∈ items.zipIdx, holds entry.1) ↔ ∀ item ∈ items, holds item := by
  conv_rhs => rw [← List.zipIdx_map_fst 0 items]
  simp only [List.forall_mem_map]

variable {condition : Condition}

theorem Verdict.taint {lookup : PolicyLookupTable} {granted tainted : Bool}
    (verdict : Verdict lookup content policyId subject trail condition (granted, tainted)) :
    Verdict lookup content policyId subject trail condition (granted, true) where
  granted := verdict.granted
  refuted denial := by simp at denial
  explained := verdict.explained

variable (engine content policyId subject) in
/-- The traced computation keeps the cache sound and decides the condition,
without a claim about its taint. -/
def TraceDecides (trail : NodeTrail) (condition : Condition) (computation : Traced σ) : Prop :=
  ∀ trace, Keeps engine content (computation trace) fun outcome =>
    Verdict engine.lookup content policyId subject trail condition (outcome.1, true)

theorem TraceDecides.congr {condition' : Condition} {computation : Traced σ}
    (equivalent : ∀ positive negative, condition positive negative ↔ condition' positive negative)
    (decides : TraceDecides engine content policyId subject trail condition computation) :
    TraceDecides engine content policyId subject trail condition' computation :=
  fun trace => Keeps.weaken (decides trace) fun _ verdict => verdict.congr equivalent

/-- What is recorded after a decision does not change it. -/
theorem Verdict.recorded {granted : Bool}
    (verdict : Verdict engine.lookup content policyId subject trail condition (granted, true))
    (granting denying : EvaluationTrace) :
    Keeps engine content (if granted then pure (true, granting) else pure (false, denying))
      fun outcome =>
        Verdict engine.lookup content policyId subject trail condition (outcome.1, true) := by
  cases granted with
  | true => exact Keeps.pure verdict
  | false => exact Keeps.pure verdict

section Loops

variable {α : Type} {condition : α → Condition} {visit : α → Traced σ}
  (visits : ∀ item, TraceDecides engine content policyId subject trail (condition item)
    (visit item))

include visits

theorem traceFirstGrant_decides (items : List α) :
    TraceDecides engine content policyId subject trail (fun positive negative =>
        ∃ item ∈ items, condition item positive negative)
      (traceFirstGrant visit items) := by
  intro trace
  induction items generalizing trace with
  | nil => exact Keeps.pure (Verdict.deny (by simp) true)
  | cons item rest ih =>
    refine Keeps.bind (visits item trace) ?_
    rintro ⟨granted, trace⟩ verdict
    cases granted with
    | true =>
      have holds := verdict.granted rfl
      exact Keeps.pure (Verdict.grant ⟨item, List.mem_cons_self, holds⟩ true)
    | false =>
      refine Keeps.weaken (ih trace) ?_
      intro outcome restVerdict
      refine ⟨?_, by simp, ?_⟩
      · intro grant
        obtain ⟨found, listed, holds⟩ := restVerdict.granted grant
        exact ⟨found, List.mem_cons_of_mem item listed, holds⟩
      · rintro denial rank ⟨found, listed, holds⟩
        rcases List.mem_cons.mp listed with rfl | inRest
        · exact verdict.explained rfl rank holds
        · exact restVerdict.explained denial rank ⟨found, inRest, holds⟩

theorem traceEveryGrant_decides (items : List α) :
    TraceDecides engine content policyId subject trail (fun positive negative =>
        ∀ item ∈ items, condition item positive negative)
      (traceEveryGrant visit items) := by
  intro trace
  induction items generalizing trace with
  | nil => exact Keeps.pure (Verdict.grant (by simp) true)
  | cons item rest ih =>
    refine Keeps.bind (visits item trace) ?_
    rintro ⟨granted, trace⟩ verdict
    cases granted with
    | true =>
      refine Keeps.weaken (ih trace) ?_
      intro outcome restVerdict
      refine ⟨?_, by simp, ?_⟩
      · intro grant
        exact List.forall_mem_cons.mpr ⟨verdict.granted rfl, restVerdict.granted grant⟩
      · intro denial rank holds
        exact restVerdict.explained denial rank (List.forall_mem_cons.mp holds).2
    | false =>
      refine Keeps.pure ⟨by simp, by simp, ?_⟩
      intro denial rank holds
      exact verdict.explained denial rank (holds item List.mem_cons_self)

end Loops

theorem Decides.record {computation : Exec (CheckCache σ) Error Eval}
    (decides : Decides engine content policyId subject trail condition computation)
    (granting denying : EvaluationTrace) : Keeps engine content (do
        let (granted, _) ← computation
        if granted then pure (true, granting)
        else pure (false, denying))
      fun outcome =>
        Verdict engine.lookup content policyId subject trail condition (outcome.1, true) := by
  refine Keeps.bind decides ?_
  rintro ⟨granted, tainted⟩ verdict
  exact Verdict.recorded verdict.taint granting denying


variable (engine content policyId subject) in
/-- The traced evaluation of nested expressions decides their rules. -/
def TracedInnerDecides (traced : PermissionEngine.TracedInner σ) : Prop :=
  ∀ node expression trail, TraceDecides engine content policyId subject trail
    (Rule engine.lookup content policyId subject node expression) (traced node expression trail)

section TracedFurther

variable {traced : PermissionEngine.TracedInner σ}
  (tracedDecides : TracedInnerDecides engine content policyId subject traced)

include tracedDecides

theorem TracedInnerDecides.node (node : NodeId) {expression : RelationExpression}
    (found : engine.lookup.getExpression policyId node.resource node.relation = .ok expression) :
    TraceDecides engine content policyId subject trail (Reached engine.lookup policyId node)
      (traced node expression (node :: trail)) := by
  intro trace
  refine Keeps.weaken (tracedDecides node expression (node :: trail) trace) ?_
  intro outcome verdict
  exact verdict.leaveNode found

theorem traceThisSubject_decides (stored : Subject) :
    TraceDecides engine content policyId subject trail
      (SubjectGrants engine.lookup policyId subject stored)
      (engine.traceThisSubject policyId subject traced trail stored) := by
  intro trace
  cases stored with
  | entitySet resource objectId relation =>
    refine Keeps.afterCharge ?_
    by_cases empty : relation = ""
    · simp only [empty, if_true, SubjectGrants]
      by_cases actor :
          engine.lookup.isActorResource policyId resource = true ∧ objectId = subject.asStr
      · rw [if_pos actor]
        exact Keeps.pure (Verdict.grant actor true)
      · rw [if_neg actor]
        exact Keeps.pure (Verdict.deny (fun _ _ => actor) true)
    · simp only [empty, if_false, SubjectGrants]
      by_cases onTrail : (⟨resource, objectId, relation⟩ : NodeId) ∈ trail
      · rw [if_pos onTrail]
        exact Keeps.pure (Verdict.onTrail onTrail)
      · rw [if_neg onTrail]
        exact Keeps.bind (Keeps.ofExcept _) fun expression found =>
          tracedDecides.node ⟨resource, objectId, relation⟩ found trace
  | entity did =>
    exact Keeps.afterCharge (Keeps.pure (Verdict.deny (by simp [SubjectGrants]) true))
  | typedWildcard resource =>
    exact Keeps.afterCharge (Keeps.pure (Verdict.deny (by simp [SubjectGrants]) true))
  | wildcard =>
    exact Keeps.afterCharge (Keeps.pure (Verdict.deny (by simp [SubjectGrants]) true))

theorem traceThis_decides (serves : engine.store.Serves content) (node : NodeId) :
    TraceDecides engine content policyId subject trail
      (Rule engine.lookup content policyId subject node .this)
      (engine.traceThis policyId subject traced node trail) := by
  intro trace
  refine Keeps.bind (Keeps.direct serves node) fun granted rule => ?_
  by_cases grant : granted = true
  · simp only [grant, if_true]
    exact Keeps.pure (Verdict.grant ((rule _ _).mpr (.inl grant)) true)
  · simp only [grant, Bool.false_eq_true, if_false]
    refine Keeps.bind (Keeps.subjects serves node _) fun subjects listed => ?_
    refine TraceDecides.congr (fun positive negative => ?_)
      (traceFirstGrant_decides (traceThisSubject_decides tracedDecides) subjects) _
    simp only [rule, grant, false_or, listed, Bool.false_eq_true]

theorem traceComputedUserset_decides (node : NodeId) (relation : String) :
    TraceDecides engine content policyId subject trail
      (Rule engine.lookup content policyId subject node (.computedUserset relation))
      (engine.traceComputedUserset policyId traced node trail relation) := by
  refine TraceDecides.congr (fun _ _ => derives_computedUserset_iff.symm) fun trace => ?_
  unfold PermissionEngine.traceComputedUserset
  by_cases onTrail : (⟨node.resource, node.objectId, relation⟩ : NodeId) ∈ trail
  · simp only [onTrail, if_true]
    exact Keeps.pure (Verdict.onTrail onTrail)
  · simp only [onTrail, if_false]
    refine Keeps.bind (Keeps.ofExcept _) fun expression found => ?_
    refine Keeps.bind
      (tracedDecides.node ⟨node.resource, node.objectId, relation⟩ found _) ?_
    rintro ⟨granted, trace⟩ verdict
    exact Keeps.pure verdict

end TracedFurther

section Checked

variable {inner : PermissionEngine.Inner σ}
  (innerDecides : InnerDecides engine content policyId subject inner)

include innerDecides

theorem traceTarget_decides (computedRelation : String) (target : ObjectRef) :
    TraceDecides engine content policyId subject trail
      (Reached engine.lookup policyId ⟨target.resource, target.objectId, computedRelation⟩)
      (engine.traceTarget policyId subject inner trail computedRelation target) := by
  intro trace
  refine Keeps.afterCharge ?_
  by_cases onTrail : (⟨target.resource, target.objectId, computedRelation⟩ : NodeId) ∈ trail
  · simp only [onTrail, if_true]
    exact Keeps.pure (Verdict.onTrail onTrail)
  · simp only [onTrail, if_false]
    exact Keeps.bind (Keeps.ofExcept _) fun expression found =>
      Decides.record (evaluateExprCached_decides innerDecides found) _ _

theorem traceTupleSubject_decides (node : NodeId) (tupleRelation computedRelation : String)
    (stored : Subject) :
    TraceDecides engine content policyId subject trail
      (TupleSubjectGrants engine.lookup policyId computedRelation stored)
      (engine.traceTupleSubject policyId subject inner node trail
        tupleRelation computedRelation stored) := by
  intro trace
  cases stored with
  | entitySet resource objectId relation =>
    refine Keeps.afterCharge ?_
    by_cases onTrail : (⟨resource, objectId, computedRelation⟩ : NodeId) ∈ trail
    · simp only [onTrail, if_true]
      exact Keeps.pure (Verdict.onTrail onTrail)
    · simp only [onTrail, if_false]
      exact Keeps.bind (Keeps.ofExcept _) fun expression found =>
        Decides.record (evaluateExprCached_decides innerDecides found) _ _
  | typedWildcard resource =>
    exact Keeps.afterCharge (Keeps.pure (Verdict.grant trivial true))
  | wildcard =>
    exact Keeps.afterCharge (Keeps.pure (Verdict.grant trivial true))
  | entity did =>
    exact Keeps.afterCharge (Keeps.pure (Verdict.deny (fun _ _ => id) true))

theorem traceTupleToUserset_decides (serves : engine.store.Serves content)
    (node : NodeId) (tupleRelation computedRelation : String) :
    TraceDecides engine content policyId subject trail
      (Rule engine.lookup content policyId subject node
        (.tupleToUserset tupleRelation computedRelation))
      (engine.traceTupleToUserset policyId subject inner node trail
        tupleRelation computedRelation) := by
  intro trace
  refine Keeps.bind (Keeps.targets serves node _) fun targets targetStored => ?_
  refine Keeps.bind
    (traceFirstGrant_decides (traceTarget_decides innerDecides computedRelation) targets _) ?_
  rintro ⟨granted, trace⟩ verdict
  cases granted with
  | true =>
    refine Keeps.pure (Verdict.grant ?_ true)
    obtain ⟨target, listed, holds⟩ := verdict.granted rfl
    obtain ⟨edge, stored⟩ := targetStored target listed
    exact .tupleToUserset stored holds
  | false =>
    refine Keeps.bind (Keeps.subjects serves node _) fun subjects listed => ?_
    have loop := traceFirstGrant_decides (@traceTupleSubject_decides _ _ _ _ _ trail _
      innerDecides node tupleRelation computedRelation) subjects
    refine Keeps.bind (loop trace) ?_
    rintro ⟨granted, trace⟩ verdict
    refine Verdict.recorded (verdict.congr fun positive negative => ?_) _ _
    simp only [derives_tupleToUserset_iff, listed]

theorem traceUnion_decides (node : NodeId) (exprs : List RelationExpression) :
    TraceDecides engine content policyId subject trail
      (Rule engine.lookup content policyId subject node (.union exprs))
      (PermissionEngine.traceUnion inner node trail exprs) := by
  intro trace
  have branches : ∀ branch : RelationExpression × Nat,
      TraceDecides engine content policyId subject trail
        (fun positive _ => (node, branch.1) ∈ positive)
        (PermissionEngine.traceUnionBranch inner node trail branch) :=
    fun branch trace => Decides.record (innerDecides.member node branch.1) _ _
  refine Keeps.bind (traceFirstGrant_decides branches exprs.zipIdx _) ?_
  rintro ⟨granted, trace⟩ verdict
  refine Verdict.recorded (verdict.congr fun positive negative => ?_) _ _
  exact (exists_zipIdx fun expr => (node, expr) ∈ positive).trans derives_union_iff.symm

theorem traceIntersection_decides (node : NodeId) (exprs : List RelationExpression) :
    TraceDecides engine content policyId subject trail
      (Rule engine.lookup content policyId subject node (.intersection exprs))
      (PermissionEngine.traceIntersection inner node trail exprs) := by
  intro trace
  have branches : ∀ branch : RelationExpression × Nat,
      TraceDecides engine content policyId subject trail
        (fun positive _ => (node, branch.1) ∈ positive)
        (PermissionEngine.traceIntersectionBranch inner node trail branch) :=
    fun branch trace => Decides.record (innerDecides.member node branch.1) _ _
  refine Keeps.bind (traceEveryGrant_decides branches exprs.zipIdx _) ?_
  rintro ⟨granted, trace⟩ verdict
  refine Verdict.recorded (verdict.congr fun positive negative => ?_) _ _
  exact (forall_zipIdx fun expr => (node, expr) ∈ positive).trans derives_intersection_iff.symm

theorem traceDifference_decides (node : NodeId) (base subtract : RelationExpression) :
    TraceDecides engine content policyId subject trail
      (Rule engine.lookup content policyId subject node (.difference base subtract))
      (PermissionEngine.traceDifference inner node trail base subtract) := by
  refine TraceDecides.congr (fun _ _ => derives_difference_iff.symm) fun trace => ?_
  refine Keeps.bind (innerDecides.member node base) ?_
  rintro ⟨baseGranted, baseTainted⟩ baseVerdict
  cases baseGranted with
  | false =>
    refine Keeps.pure ⟨by simp, by simp, ?_⟩
    intro denial rank holds
    exact baseVerdict.explained denial rank holds.1
  | true =>
    have baseCertain := baseVerdict.granted rfl
    refine Keeps.bind (innerDecides.member node subtract) ?_
    rintro ⟨subtractGranted, subtractTainted⟩ subtractVerdict
    cases subtractTainted with
    | true => exact Keeps.fail
    | false =>
      cases subtractGranted with
      | false =>
        exact Keeps.pure (Verdict.grant ⟨baseCertain, subtractVerdict.refuted rfl⟩ true)
      | true =>
        have subtractCertain := subtractVerdict.granted rfl
        refine Keeps.pure ⟨by simp, by simp, ?_⟩
        intro _ _ holds
        exact absurd (RuleOperator.certain_subset_possible _ subtractCertain) holds.2

theorem traceCases_decides (serves : engine.store.Serves content)
    {traced : PermissionEngine.TracedInner σ}
    (tracedDecides : TracedInnerDecides engine content policyId subject traced) :
    TracedInnerDecides engine content policyId subject
      (engine.traceCases policyId subject traced inner) := by
  intro node expression trail
  cases expression with
  | this => exact traceThis_decides tracedDecides serves node
  | computedUserset relation =>
    exact traceComputedUserset_decides tracedDecides node relation
  | tupleToUserset tupleRelation computedRelation =>
    exact traceTupleToUserset_decides innerDecides serves node tupleRelation computedRelation
  | union exprs => exact traceUnion_decides innerDecides node exprs
  | intersection exprs => exact traceIntersection_decides innerDecides node exprs
  | difference base subtract =>
    exact traceDifference_decides innerDecides node base subtract

end Checked

theorem evaluateExprWithTrace_decides (serves : engine.store.Serves content) (remaining : Nat) :
    TracedInnerDecides engine content policyId subject
      (engine.evaluateExprWithTrace policyId subject remaining) := by
  induction remaining with
  | zero =>
    intro node expression trail trace
    exact Keeps.afterCharge Keeps.fail
  | succ remaining ih =>
    intro node expression trail trace
    exact Keeps.afterCharge
      (traceCases_decides (evaluateExprInner_decides serves remaining) serves ih
        node expression trail trace)

theorem explainWithCache_decides (serves : engine.store.Serves content)
    (request : PermissionCheckRequest) :
    Keeps engine content (engine.explainWithCache request) fun explanation =>
        explanation.granted = true ↔ Granted engine.lookup content request.policyId request.subject
            request.node := by
  refine Keeps.bind (Keeps.ofExcept _) fun expression found => ?_
  refine Keeps.bind
    (evaluateExprWithTrace_decides serves maxEvaluationDepth request.node
      expression [request.node] .new) ?_
  rintro ⟨granted, trace⟩ verdict
  have outside := Verdict.leaveNode found verdict
  exact Keeps.pure outside.decides_of_nil

/-- Whenever an explanation and a check of one request both succeed, whatever
the store answered in which order, the explanation is granted exactly when the
check grants. -/
theorem explanations_agree_with_checks (engine : PermissionEngine σ)
    (content : Content) (serves : engine.store.Serves content)
    (request : PermissionCheckRequest) (store later : σ)
    (explanation : PermissionExplanation) (granted : Bool)
    (explained : ((engine.explain request).run store).1 = .ok explanation)
    (checked : ((engine.check request).run later).1 = .ok granted) :
    explanation.granted = granted := by
  have explains := (explainWithCache_decides serves request).result (cacheSound_new store) explained
  have decides := (checkWithCache_step serves request (cacheSound_new later)).1 granted checked
  rw [Bool.eq_iff_iff, explains, decides]

end Evaluation

/-- The explanation of a view of the cyclic groups agrees with the check. -/
theorem group_explanation_agrees :
    ∃ explanation,
      ((groupEngine.explain (viewRequest alice)).run ()).1 = .ok explanation ∧
        ((groupEngine.check (viewRequest alice)).run ()).1 = .ok true ∧
          explanation.granted = true := by
  have checked : ((groupEngine.check (viewRequest alice)).run ()).1 =
      .ok true := by
    decide +kernel
  have succeeds : ((groupEngine.explain (viewRequest alice)).run ()).1.isOk = true := by
    decide +kernel
  cases explained : ((groupEngine.explain (viewRequest alice)).run ()).1 with
  | error failure => simp [explained, Except.isOk, Except.toBool] at succeeds
  | ok explanation =>
    exact ⟨explanation, rfl, checked,
      explanations_agree_with_checks groupEngine groupContent
        (contentStore_serves groupContent) (viewRequest alice) () ()
        explanation true explained checked⟩

end VeraHub.Zanzibar

import VeraHub.Zanzibar.Engine

/-!
# The engine over two stores

The engine is generic in its store.  A relation between evaluations that the
combinators keep relates the checks of two engines with related reads.  So when
the successful reads of one store have the same answers in another, every
decision over the first is the decision over the second.
-/

namespace VeraHub.Zanzibar

/-! ## Related evaluations -/

section Related

variable {σ τ α β : Type}

/-- A relation between the evaluations over two stores. -/
abbrev EvaluationRelation (σ τ : Type) : Type 1 :=
  ∀ ⦃α : Type⦄, Exec (CheckCache σ) Error α → Exec (CheckCache τ) Error α → Prop

/-- The combinators of the engine keep the relation. -/
structure EvaluationRelation.Compatible (related : EvaluationRelation σ τ) : Prop where
  pure : ∀ {α : Type} (value : α), related (Pure.pure value) (Pure.pure value)
  fail : ∀ {α : Type} (failure : Error), @related α (Exec.fail failure) (Exec.fail failure)
  bind : ∀ {α β : Type} {first : Exec (CheckCache σ) Error α} {second : Exec (CheckCache τ) Error α}
    {next : α → Exec (CheckCache σ) Error β} {next' : α → Exec (CheckCache τ) Error β},
    related first second → (∀ value, related (next value) (next' value)) →
      related (first >>= next) (second >>= next')
  charge : related CheckCache.charge CheckCache.charge
  cached : ∀ key, related (Exec.gets fun cache => cache.get key)
    (Exec.gets fun cache => cache.get key)
  store : ∀ key value, related (Exec.modify fun cache => cache.set key value)
    (Exec.modify fun cache => cache.set key value)

/-- The nested evaluations are related at every node. -/
def InnerRelated (related : EvaluationRelation σ τ) (firstInner : PermissionEngine.Inner σ)
    (secondInner : PermissionEngine.Inner τ) : Prop :=
  ∀ node expression trail,
    related (firstInner node expression trail) (secondInner node expression trail)

/-- Two engines with the same policies and related reads. -/
structure EnginesRelated (related : EvaluationRelation σ τ)
    (first : PermissionEngine σ) (second : PermissionEngine τ) : Prop where
  lookup : first.lookup = second.lookup
  direct : ∀ policyId resource objectId relation subject, related
    (CheckCache.onStore (first.store.checkPermissionDirect policyId resource objectId relation
      subject))
    (CheckCache.onStore (second.store.checkPermissionDirect policyId resource objectId relation
      subject))
  subjects : ∀ policyId resource objectId relation, related
    (CheckCache.onStore (first.store.getRelationSubjects policyId resource objectId relation))
    (CheckCache.onStore (second.store.getRelationSubjects policyId resource objectId relation))
  targets : ∀ policyId resource objectId relation, related
    (CheckCache.onStore (first.store.getRelationTargets policyId resource objectId relation))
    (CheckCache.onStore (second.store.getRelationTargets policyId resource objectId relation))

variable {related : EvaluationRelation σ τ} (compatible : related.Compatible)

include compatible

theorem EvaluationRelation.Compatible.ofExcept (result : Except Error α) :
    related (Exec.ofExcept result) (Exec.ofExcept result) := by
  cases result with
  | ok value => exact compatible.pure value
  | error failure => exact compatible.fail failure

omit compatible in
theorem EvaluationRelation.ite {condition : Prop} [Decidable condition]
    {first first' : Exec (CheckCache σ) Error α} {second second' : Exec (CheckCache τ) Error α}
    (positive : related first second) (negative : related first' second') :
    related (if condition then first else first') (if condition then second else second') := by
  by_cases holds : condition
  · rw [if_pos holds, if_pos holds]
    exact positive
  · rw [if_neg holds, if_neg holds]
    exact negative

variable {second : α → Exec (CheckCache τ) Error Eval} {first : α → Exec (CheckCache σ) Error Eval}

theorem firstGrant_related (visits : ∀ item, related (first item) (second item)) (items : List α)
    (tainted : Bool) :
    related (firstGrant first items tainted) (firstGrant second items tainted) := by
  induction items generalizing tainted with
  | nil => exact compatible.pure _
  | cons item rest ih =>
    refine compatible.bind (visits item) fun decision => ?_
    exact EvaluationRelation.ite (compatible.pure _) (ih _)

theorem everyGrant_related (visits : ∀ item, related (first item) (second item)) (items : List α)
    (tainted : Bool) :
    related (everyGrant first items tainted) (everyGrant second items tainted) := by
  induction items generalizing tainted with
  | nil => exact compatible.pure _
  | cons item rest ih =>
    refine compatible.bind (visits item) fun decision => ?_
    exact EvaluationRelation.ite (ih _) (compatible.pure _)

/-! ### Cases of the expression -/

variable {first : PermissionEngine σ} {second : PermissionEngine τ}
  {policyId : String} {subject : Did}
  {firstInner : PermissionEngine.Inner σ} {secondInner : PermissionEngine.Inner τ}
  (inner : InnerRelated related firstInner secondInner)

include inner

theorem evaluateExprCached_related :
    InnerRelated related (PermissionEngine.evaluateExprCached policyId subject firstInner)
      (PermissionEngine.evaluateExprCached policyId subject secondInner) := by
  intro node expression trail
  refine compatible.bind (compatible.cached _) fun hit => ?_
  cases hit with
  | some cached => exact compatible.bind compatible.charge fun _ => compatible.pure _
  | none =>
    refine compatible.bind (inner node expression trail) fun decision => ?_
    refine EvaluationRelation.ite (compatible.pure _) ?_
    exact compatible.bind (compatible.store _ _) fun _ => compatible.pure _

theorem evaluateDifference_related (node : NodeId) (trail : NodeTrail)
    (base subtract : RelationExpression) :
    related (PermissionEngine.evaluateDifference firstInner node trail base subtract)
      (PermissionEngine.evaluateDifference secondInner node trail base subtract) := by
  refine compatible.bind (inner node base trail) fun decision => ?_
  refine EvaluationRelation.ite ?_ (compatible.pure _)
  refine compatible.bind (inner node subtract trail) fun _ => ?_
  exact EvaluationRelation.ite (compatible.fail _) (compatible.pure _)

variable (engines : EnginesRelated related first second)

include engines

theorem visitNode_related (trail : NodeTrail) (node : NodeId) :
    related (first.visitNode policyId subject firstInner trail node)
      (second.visitNode policyId subject secondInner trail node) := by
  unfold PermissionEngine.visitNode
  rw [engines.lookup]
  refine EvaluationRelation.ite (compatible.pure _) ?_
  exact compatible.bind (compatible.ofExcept _) fun expression =>
    evaluateExprCached_related compatible inner node expression (node :: trail)

theorem visitThisSubject_related (trail : NodeTrail) (stored : Subject) :
    related (first.visitThisSubject policyId subject firstInner trail stored)
      (second.visitThisSubject policyId subject secondInner trail stored) := by
  cases stored with
  | entitySet resource objectId relation =>
    refine compatible.bind compatible.charge fun _ => ?_
    rw [engines.lookup]
    exact EvaluationRelation.ite (compatible.pure _)
      (visitNode_related compatible inner engines trail _)
  | entity did => exact compatible.bind compatible.charge fun _ => compatible.pure _
  | typedWildcard resource => exact compatible.bind compatible.charge fun _ => compatible.pure _
  | wildcard => exact compatible.bind compatible.charge fun _ => compatible.pure _

theorem evaluateThis_related (node : NodeId) (trail : NodeTrail) :
    related (first.evaluateThis policyId subject firstInner node trail)
      (second.evaluateThis policyId subject secondInner node trail) := by
  refine compatible.bind (engines.direct _ _ _ _ _) fun granted => ?_
  refine EvaluationRelation.ite (compatible.pure _) ?_
  refine compatible.bind (engines.subjects _ _ _ _) fun subjects => ?_
  exact firstGrant_related compatible (visitThisSubject_related compatible inner engines trail)
    subjects false

theorem visitTupleSubject_related (trail : NodeTrail) (computedRelation : String)
    (stored : Subject) :
    related (first.visitTupleSubject policyId subject firstInner trail computedRelation stored)
      (second.visitTupleSubject policyId subject secondInner trail computedRelation stored) := by
  cases stored with
  | entitySet resource objectId relation =>
    exact compatible.bind compatible.charge fun _ =>
      visitNode_related compatible inner engines trail _
  | entity did => exact compatible.bind compatible.charge fun _ => compatible.pure _
  | typedWildcard resource => exact compatible.bind compatible.charge fun _ => compatible.pure _
  | wildcard => exact compatible.bind compatible.charge fun _ => compatible.pure _

theorem evaluateTupleToUserset_related (node : NodeId)
    (trail : NodeTrail) (tupleRelation computedRelation : String) :
    related (first.evaluateTupleToUserset policyId subject firstInner node trail
        tupleRelation computedRelation)
      (second.evaluateTupleToUserset policyId subject secondInner node trail
        tupleRelation computedRelation) := by
  have visits : ∀ target,
      related (first.visitTarget policyId subject firstInner trail computedRelation target)
        (second.visitTarget policyId subject secondInner trail computedRelation target) :=
    fun target => compatible.bind compatible.charge fun _ =>
      visitNode_related compatible inner engines trail _
  refine compatible.bind (engines.targets _ _ _ _) fun targets => ?_
  refine compatible.bind (firstGrant_related compatible visits targets false) fun decision => ?_
  refine EvaluationRelation.ite (compatible.pure _) ?_
  refine compatible.bind (engines.subjects _ _ _ _) fun subjects => ?_
  exact firstGrant_related compatible
    (visitTupleSubject_related compatible inner engines trail computedRelation) subjects decision.2

theorem evaluateCases_related :
    InnerRelated related (first.evaluateCases policyId subject firstInner)
      (second.evaluateCases policyId subject secondInner) := by
  intro node expression trail
  cases expression with
  | this => exact evaluateThis_related compatible inner engines node trail
  | computedUserset relation => exact visitNode_related compatible inner engines trail _
  | tupleToUserset tupleRelation computedRelation =>
    exact evaluateTupleToUserset_related compatible inner engines node trail tupleRelation
      computedRelation
  | union exprs =>
    exact firstGrant_related compatible (fun expr => inner node expr trail) exprs false
  | intersection exprs =>
    exact everyGrant_related compatible (fun expr => inner node expr trail) exprs false
  | difference base subtract =>
    exact evaluateDifference_related compatible inner node trail base subtract

end Related

/-! ## Simulation -/

section Stores

variable {σ τ : Type}

/-- Each successful read of the first store has the same answer in the
second. -/
structure ZanzibarStore.Simulates (admissible : σ → Prop) (related : σ → τ → Prop)
    (first : ZanzibarStore σ) (second : ZanzibarStore τ) : Prop where
  checkPermissionDirect :
    ∀ policyId resource objectId relation subject,
      Exec.Simulates admissible related
        (first.checkPermissionDirect policyId resource objectId relation subject)
        (second.checkPermissionDirect policyId resource objectId relation subject)
  getRelationSubjects :
    ∀ policyId resource objectId relation,
      Exec.Simulates admissible related
        (first.getRelationSubjects policyId resource objectId relation)
        (second.getRelationSubjects policyId resource objectId relation)
  getRelationTargets :
    ∀ policyId resource objectId relation,
      Exec.Simulates admissible related
        (first.getRelationTargets policyId resource objectId relation)
        (second.getRelationTargets policyId resource objectId relation)

/-- Equal budgets and caches over related store states. -/
structure CacheRelated (related : σ → τ → Prop)
    (source : CheckCache σ) (target : CheckCache τ) : Prop where
  steps : source.steps = target.steps
  results : source.results = target.results
  store : related source.store target.store

/-- Simulation of evaluations, which carry the budget and the cache. -/
def EvaluationSimulates (admissible : σ → Prop) (related : σ → τ → Prop) {α : Type}
    (first : Exec (CheckCache σ) Error α) (second : Exec (CheckCache τ) Error α) : Prop :=
  Exec.Simulates (fun cache => admissible cache.store) (CacheRelated related) first second

end Stores

section Evaluation

variable {σ τ α : Type} {admissible : σ → Prop} {related : σ → τ → Prop}

theorem charge_simulates : EvaluationSimulates admissible related
      CheckCache.charge CheckCache.charge := by
  intro source value source' success reached
  have within : source.steps < maxEvaluationSteps := by
    by_contra exhausted
    unfold Exec.run CheckCache.charge at success
    rw [if_neg exhausted] at success
    cases success
  unfold Exec.run CheckCache.charge at success
  rw [if_pos within] at success
  cases success
  refine ⟨reached, fun target relation => ?_⟩
  refine ⟨{ target with steps := target.steps + 1 }, ?_,
    ⟨congrArg (· + 1) relation.steps, relation.results, relation.store⟩⟩
  unfold Exec.run CheckCache.charge
  rw [if_pos (relation.steps ▸ within)]

theorem onStore_simulates {first : Exec σ Error α} {second : Exec τ Error α}
    (simulated : Exec.Simulates admissible related first second) :
    EvaluationSimulates admissible related
      (CheckCache.onStore first) (CheckCache.onStore second) := by
  intro source value source' success reached
  rw [CheckCache.run_onStore] at success
  have answered : first.run source.store = (.ok value, (first.run source.store).2) :=
    Prod.ext (Prod.ext_iff.mp success).1 rfl
  have final : source' = { source with store := (first.run source.store).2 } :=
    (Prod.ext_iff.mp success).2.symm
  subst final
  obtain ⟨storeReached, continued⟩ := simulated _ _ _ answered reached
  refine ⟨storeReached, fun target relation => ?_⟩
  obtain ⟨store', targetRun, storeRelation⟩ := continued target.store relation.store
  refine ⟨{ target with store := store' }, ?_, ⟨relation.steps, relation.results, storeRelation⟩⟩
  rw [CheckCache.run_onStore, targetRun]

theorem cached_simulates (key : CheckKey) :
    EvaluationSimulates admissible related (Exec.gets fun cache => cache.get key)
      (Exec.gets fun cache => cache.get key) := by
  intro source value source' success reached
  cases success
  refine ⟨reached, fun target relation => ⟨target, ?_, relation⟩⟩
  have sameHit : target.get key = source.get key := by
    unfold CheckCache.get
    rw [relation.results]
  rw [Exec.run_gets, sameHit]

theorem store_simulates (key : CheckKey) (value : Bool) :
    EvaluationSimulates admissible related (Exec.modify fun cache => cache.set key value)
      (Exec.modify fun cache => cache.set key value) := by
  intro source result source' success reached
  cases success
  refine ⟨reached, fun target relation =>
    ⟨target.set key value, rfl, relation.steps, ?_, relation.store⟩⟩
  exact congrArg ((key, value) :: ·) relation.results

theorem simulates_compatible (admissible : σ → Prop) (related : σ → τ → Prop) :
    EvaluationRelation.Compatible fun _ => EvaluationSimulates admissible related where
  pure := Exec.Simulates.pure
  fail failure := Exec.Simulates.fail failure _
  bind := Exec.Simulates.bind
  charge := charge_simulates
  cached := cached_simulates
  store := store_simulates

end Evaluation

section Engines

variable {σ τ : Type} {admissible : σ → Prop} {related : σ → τ → Prop}
  {first : PermissionEngine σ} {second : PermissionEngine τ} {policyId : String} {subject : Did}

/-- Two engines with the same policies over simulating stores. -/
structure EnginesSimulate (admissible : σ → Prop) (related : σ → τ → Prop)
    (first : PermissionEngine σ) (second : PermissionEngine τ) : Prop where
  lookup : first.lookup = second.lookup
  store : ZanzibarStore.Simulates admissible related first.store second.store

variable (engines : EnginesSimulate admissible related first second)

include engines

theorem EnginesSimulate.enginesRelated :
    EnginesRelated (fun _ => EvaluationSimulates admissible related) first second where
  lookup := engines.lookup
  direct _ _ _ _ _ := onStore_simulates (engines.store.checkPermissionDirect _ _ _ _ _)
  subjects _ _ _ _ := onStore_simulates (engines.store.getRelationSubjects _ _ _ _)
  targets _ _ _ _ := onStore_simulates (engines.store.getRelationTargets _ _ _ _)

theorem evaluateExprInner_simulates (remaining : Nat) :
    InnerRelated (fun _ => EvaluationSimulates admissible related)
      (first.evaluateExprInner policyId subject remaining)
      (second.evaluateExprInner policyId subject remaining) := by
  induction remaining with
  | zero =>
    intro node expression trail
    exact Exec.Simulates.bind charge_simulates fun _ => Exec.Simulates.fail _ _
  | succ remaining ih =>
    intro node expression trail
    exact Exec.Simulates.bind charge_simulates fun _ =>
      evaluateCases_related (simulates_compatible _ _) ih engines.enginesRelated node expression trail

theorem checkWithCache_simulates (node : NodeId) :
    EvaluationSimulates admissible related (first.checkWithCache policyId subject node)
      (second.checkWithCache policyId subject node) := by
  unfold PermissionEngine.checkWithCache
  rw [engines.lookup]
  refine Exec.Simulates.bind (Exec.Simulates.ofExcept _) fun expression => ?_
  refine Exec.Simulates.bind
    (evaluateExprCached_related (simulates_compatible _ _)
      (evaluateExprInner_simulates engines maxEvaluationDepth) node expression [node])
    fun decision => ?_
  exact Exec.Simulates.pure _

theorem check_simulates (request : PermissionCheckRequest) :
    Exec.Simulates admissible related (first.check request) (second.check request) := by
  intro source granted source' success reached
  have decided := (Prod.ext_iff.mp success).1
  have final := (Prod.ext_iff.mp success).2
  subst final
  obtain ⟨sourceReached, continued⟩ :=
    checkWithCache_simulates engines request.node
      (CheckCache.new source) granted _ (Prod.ext decided rfl) reached
  refine ⟨sourceReached, fun target relation => ?_⟩
  obtain ⟨cache', targetRun, cacheRelation⟩ :=
    continued (CheckCache.new target) ⟨rfl, rfl, relation⟩
  refine ⟨cache'.store, ?_, cacheRelation.store⟩
  unfold PermissionEngine.check Exec.run
  unfold Exec.run at targetRun
  simp only [targetRun]

end Engines

end VeraHub.Zanzibar

import VeraHub.Zanzibar.Simulation

/-!
# The evaluation budget

The engine counts active evaluations in a counter that all requests of a batch
share: an evaluation adds to it when it starts and takes away when it ends, on
every path.  Here that counter is part of the state, and the recursion is
unrolled with an arbitrary evaluation below it.  The budget keeps every run away
from that evaluation, so the run ends, and the counter is back afterwards.
-/

namespace VeraHub.Zanzibar

/-! ## The depth counter -/

/-- The state of a store beside the depth counter of the budget. -/
structure Counted (σ : Type) where
  depth : Nat
  store : σ

variable {σ α : Type}

def Counted.onStore (operation : Exec σ Error α) : Exec (Counted σ) Error α :=
  fun state =>
    let outcome := operation.run state.store
    (outcome.1, { state with store := outcome.2 })

/-- The cache with the depth counter beside its store. -/
def CheckCache.counting (depth : Nat) (cache : CheckCache σ) : CheckCache (Counted σ) where
  steps := cache.steps
  results := cache.results
  store := ⟨depth, cache.store⟩

def CheckCache.setDepth (cache : CheckCache (Counted σ)) (depth : Nat) :
    CheckCache (Counted σ) :=
  { cache with store := { cache.store with depth := depth } }

namespace EvaluationBudget

/-- An evaluation with a place of its own; without a place the counter is put
back, and the guard of a place is dropped whatever comes out. -/
def guarded (evaluation : Exec (CheckCache (Counted σ)) Error α) :
    Exec (CheckCache (Counted σ)) Error α :=
  fun cache =>
    if cache.store.depth ≥ maxEvaluationDepth then
      (.error (.evaluationLimitExceeded "depth"), cache)
    else
      let outcome := evaluation.run (cache.setDepth (cache.store.depth + 1))
      (outcome.1, outcome.2.setDepth (outcome.2.store.depth - 1))

def enter (evaluation : Exec (CheckCache (Counted σ)) Error α) :
    Exec (CheckCache (Counted σ)) Error α := do
  CheckCache.charge
  guarded evaluation

end EvaluationBudget

namespace PermissionEngine

variable (engine : PermissionEngine σ) (deeper : Inner (Counted σ)) (calls : Nat)

def counted : PermissionEngine (Counted σ) where
  store :=
    { checkPermissionDirect := fun policyId resource objectId relation subject =>
        Counted.onStore
          (engine.store.checkPermissionDirect policyId resource objectId relation subject)
      getRelationSubjects := fun policyId resource objectId relation =>
        Counted.onStore (engine.store.getRelationSubjects policyId resource objectId relation)
      getRelationTargets := fun policyId resource objectId relation =>
        Counted.onStore (engine.store.getRelationTargets policyId resource objectId relation) }
  lookup := engine.lookup

/-- The evaluator unrolled to a number of nested calls; below them anything may
be evaluated. -/
def evaluateUnrolled (policyId : String) (subject : Did) : Nat → Inner (Counted σ)
  | 0 => deeper
  | calls + 1 => fun node expression trail =>
      EvaluationBudget.enter
        (engine.counted.evaluateCases policyId subject (evaluateUnrolled policyId subject calls)
          node expression trail)

def checkCounted (request : PermissionCheckRequest) :
    Exec (CheckCache (Counted σ)) Error Bool := do
  let node := request.node
  let expression ← Exec.ofExcept
    (engine.lookup.getExpression request.policyId node.resource node.relation)
  let (granted, _) ←
    evaluateExprCached request.policyId request.subject
      (engine.evaluateUnrolled deeper request.policyId request.subject calls) node expression [node]
  pure granted

/-- The requests of a batch, each with the state it leaves. -/
def checkCountedEach : List PermissionCheckRequest → CheckCache (Counted σ) →
    List (Except Error Bool × CheckCache (Counted σ))
  | [], _ => []
  | request :: rest, cache =>
    let outcome := (engine.checkCounted deeper calls request).run cache
    outcome :: checkCountedEach rest outcome.2

end PermissionEngine

/-! ## Runs that keep the counter -/

/-- From the given depth the counted computation does what the plain one does,
with the same depth afterwards, and the steps stay within the budget. -/
def Counts (depth : Nat) : EvaluationRelation (Counted σ) σ :=
  fun _ counted plain => ∀ cache, cache.steps ≤ maxEvaluationSteps →
    counted.run (cache.counting depth) =
        Prod.map id (CheckCache.counting depth) (plain.run cache) ∧
      (plain.run cache).2.steps ≤ maxEvaluationSteps

theorem charge_counts (depth : Nat) :
    Counts depth (CheckCache.charge : Exec (CheckCache (Counted σ)) Error Unit)
      CheckCache.charge := by
  intro cache within
  by_cases left : cache.steps < maxEvaluationSteps
  · simp [CheckCache.charge, Exec.run, CheckCache.counting, left]
  · simp [CheckCache.charge, Exec.run, CheckCache.counting, left, within]

theorem counts_compatible (depth : Nat) :
    (Counts depth : EvaluationRelation (Counted σ) σ).Compatible where
  pure value := fun cache within => ⟨rfl, within⟩
  fail failure := fun cache within => ⟨rfl, within⟩
  charge := charge_counts depth
  cached key := fun cache within => ⟨rfl, within⟩
  store key value := fun cache within => ⟨rfl, within⟩
  bind := by
    intro α β first second next next' counts continued cache within
    obtain ⟨same, middle⟩ := counts cache within
    rw [Exec.run_bind, Exec.run_bind, same]
    cases outcome : second.run cache with
    | mk result final =>
      rw [outcome] at middle
      cases result with
      | ok value => exact continued value final middle
      | error failure => exact ⟨rfl, middle⟩

theorem counted_related (engine : PermissionEngine σ) (depth : Nat) :
    EnginesRelated (Counts depth) engine.counted engine where
  lookup := rfl
  direct _ _ _ _ _ := fun cache within => ⟨rfl, within⟩
  subjects _ _ _ _ := fun cache within => ⟨rfl, within⟩
  targets _ _ _ _ := fun cache within => ⟨rfl, within⟩

variable (engine : PermissionEngine σ) (deeper : PermissionEngine.Inner (Counted σ))

/-- An evaluation with a place runs one level deeper. -/
theorem enter_counts {depth : Nat} (left : depth < maxEvaluationDepth)
    {evaluation : Exec (CheckCache (Counted σ)) Error α} {plain : Exec (CheckCache σ) Error α}
    (counts : Counts (depth + 1) evaluation plain) :
    Counts depth (EvaluationBudget.enter evaluation) (CheckCache.charge >>= fun _ => plain) := by
  refine (counts_compatible depth).bind (charge_counts depth) fun _ cache within => ?_
  obtain ⟨same, after⟩ := counts cache within
  refine ⟨(if_neg (Nat.not_le.mpr left)).trans ?_, after⟩
  exact congrArg (fun outcome => (outcome.1, outcome.2.setDepth (outcome.2.store.depth - 1))) same

theorem enter_refused {depth : Nat} (full : maxEvaluationDepth ≤ depth)
    (evaluation : Exec (CheckCache (Counted σ)) Error α) :
    Counts depth (EvaluationBudget.enter evaluation)
      (CheckCache.charge >>= fun _ => Exec.fail (.evaluationLimitExceeded "depth")) := by
  refine (counts_compatible depth).bind (charge_counts depth) fun _ cache within => ?_
  exact ⟨if_pos full, within⟩

/-- Enough calls are unrolled when none of them can pass the guard below. -/
theorem evaluateUnrolled_counts (policyId : String) (subject : Did) (calls depth : Nat)
    (enough : maxEvaluationDepth ≤ depth + calls) :
    InnerRelated (Counts depth) (engine.evaluateUnrolled deeper policyId subject (calls + 1))
      (engine.evaluateExprInner policyId subject (maxEvaluationDepth - depth)) := by
  induction calls generalizing depth with
  | zero =>
    intro node expression trail
    have none : maxEvaluationDepth - depth = 0 := Nat.sub_eq_zero_of_le enough
    rw [none]
    exact enter_refused enough _
  | succ calls ih =>
    intro node expression trail
    by_cases left : depth < maxEvaluationDepth
    · have lower : maxEvaluationDepth - depth = maxEvaluationDepth - (depth + 1) + 1 := by omega
      have inner := ih (depth + 1) (by omega)
      rw [lower]
      exact enter_counts left (evaluateCases_related (counts_compatible _) inner
        (counted_related engine _) node expression trail)
    · have full : maxEvaluationDepth ≤ depth := Nat.not_lt.mp left
      rw [Nat.sub_eq_zero_of_le full]
      exact enter_refused full _

theorem checkCounted_counts (extra : Nat) (request : PermissionCheckRequest) :
    Counts 0 (engine.checkCounted deeper (maxEvaluationDepth + extra + 1) request)
      (engine.checkWithCache request.policyId request.subject request.node) := by
  have compatible : EvaluationRelation.Compatible (Counts 0 : EvaluationRelation (Counted σ) σ) :=
    counts_compatible 0
  have inner := evaluateUnrolled_counts engine deeper request.policyId request.subject
    (maxEvaluationDepth + extra) 0 (by omega)
  refine compatible.bind (compatible.ofExcept _) fun expression => ?_
  refine compatible.bind (evaluateExprCached_related compatible inner _ expression _) ?_
  exact fun decision => compatible.pure decision.1

theorem checkCountedEach_counts (extra : Nat) (requests : List PermissionCheckRequest)
    {cache : CheckCache σ} (within : cache.steps ≤ maxEvaluationSteps) :
    let outcomes := engine.checkCountedEach deeper (maxEvaluationDepth + extra + 1) requests
      (cache.counting 0)
    outcomes.map Prod.fst = (engine.checkEach requests cache).1 ∧
      outcomes.Forall fun outcome =>
        outcome.2.store.depth = 0 ∧ outcome.2.steps ≤ maxEvaluationSteps := by
  induction requests generalizing cache with
  | nil => exact ⟨rfl, trivial⟩
  | cons request rest ih =>
    obtain ⟨same, after⟩ := checkCounted_counts engine deeper extra request cache within
    obtain ⟨results, bounded⟩ := ih after
    unfold PermissionEngine.checkCountedEach PermissionEngine.checkEach
    rw [same]
    exact ⟨congrArg _ results, (List.forall_cons _ _ _).mpr ⟨⟨rfl, after⟩, bounded⟩⟩

/-- Whatever nested calls below the deepest admitted evaluation would do, a batch
answers as the bounded recursion does, and after every request the step counter
is within its limit and the depth counter is back. -/
theorem batches_stay_within_budget (extra : Nat) (requests : List PermissionCheckRequest)
    (store : σ) :
    let outcomes := engine.checkCountedEach deeper (maxEvaluationDepth + extra + 1) requests
      ((CheckCache.new store).counting 0)
    outcomes.map Prod.fst = (engine.checkMany requests store).1 ∧
      outcomes.Forall fun outcome =>
        outcome.2.store.depth = 0 ∧ outcome.2.steps ≤ maxEvaluationSteps :=
  checkCountedEach_counts engine deeper extra requests (Nat.zero_le _)

end VeraHub.Zanzibar

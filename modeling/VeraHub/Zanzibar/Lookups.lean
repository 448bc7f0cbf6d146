import VeraHub.Zanzibar.Expression
import VeraHub.Zanzibar.Meaning

/-!
# What a check can miss

The policy validator checks the relations an expression names in its own
resource, and it ignores the relation that an arrow computes on its targets.
So over tuples that fit the policy a check finds every resource and every
relation it looks up, with one exception: the computed relation of an arrow on
a target that does not declare it.
-/

namespace VeraHub.Zanzibar

/-! ## Arrows -/

/-- The arrows of an expression, each with its tuple relation and the relation
it computes on the targets. -/
def RelationExpression.arrows : RelationExpression → List (String × String)
  | .this => []
  | .computedUserset _ => []
  | .tupleToUserset tupleRelation computedRelation =>
    [(tupleRelation, computedRelation)]
  | .union exprs => operandArrows exprs
  | .intersection exprs => operandArrows exprs
  | .difference base subtract => base.arrows ++ subtract.arrows
where
  operandArrows : List RelationExpression → List (String × String)
    | [] => []
    | expression :: rest => expression.arrows ++ operandArrows rest

namespace Policy

def sources (policy : Policy) : List Resource :=
  policy.resources ++ policy.actor.toList

/-- Some relation of the resource is computed with the arrow. -/
def HasArrow (policy : Policy) (resource : String) (arrow : String × String) : Prop :=
  ∃ source ∈ policy.sources, source.name = resource ∧
    ∃ declared ∈ source.relations, arrow ∈ declared.expression.arrows

/-- A stored tuple leads an arrow of the policy to a resource that does not
declare the relation the arrow computes. -/
def DanglingArrow (policy : Policy) (content : Content) (resource relation : String) : Prop :=
  policy.getRelation resource relation = none ∧
    ∃ holder tupleRelation, policy.HasArrow holder (tupleRelation, relation) ∧
      ∃ objectId target targetRelation,
        Stored content policy.id holder objectId tupleRelation
          (.entitySet resource target targetRelation)

def NamesDistinct (policy : Policy) : Prop :=
  (policy.sources.map Resource.name).Nodup

/-- Every tuple on a declared relation names a declared resource or
relation. -/
def Admits (policy : Policy) (content : Content) : Prop :=
  ∀ relationship, (policy.id, relationship) ∈ content →
    (policy.getRelation relationship.resource relationship.relation).isSome = true →
      relationship.validateReference policy = .ok ()

end Policy

def Error.Missing : Error → Prop
  | .relationNotFound _ _ => True
  | .resourceNotFound _ => True
  | _ => False

/-- The computation never fails with a failed lookup. -/
def Quietly {σ α : Type} (computation : Exec σ Error α) : Prop :=
  ∀ state failure final, computation.run state = (.error failure, final) → ¬ failure.Missing

variable {failure : Error}

namespace Quietly

variable {σ α β : Type}

theorem pure (value : α) : Quietly (Pure.pure value : Exec σ Error α) := by
  intro state failure final failed
  cases failed

theorem fail (other : ¬ failure.Missing) : Quietly (Exec.fail failure : Exec σ Error α) := by
  intro state found final failed
  cases failed
  exact other

theorem ofExcept {result : Except Error α}
    (quiet : ∀ failure, result = .error failure → ¬ failure.Missing) :
    Quietly (Exec.ofExcept result : Exec σ Error α) := by
  intro state failure final failed
  cases result with
  | ok value => cases failed
  | error other =>
    cases failed
    exact quiet _ rfl

theorem bind {first : Exec σ Error α} {next : α → Exec σ Error β}
    (firstQuiet : Quietly first) (nextQuiet : ∀ value, Quietly (next value)) :
    Quietly (first >>= next) := by
  intro state failure final failed
  rw [Exec.run_bind] at failed
  match outcome : first.run state, failed with
  | (.ok value, middle), failed =>
    exact nextQuiet value middle failure final failed
  | (.error other, middle), failed =>
    cases failed
    exact firstQuiet state _ _ outcome

end Quietly

/-- The store never fails with a failed lookup. -/
structure ZanzibarStore.Quiet {σ : Type} (store : ZanzibarStore σ) : Prop where
  checkPermissionDirect : ∀ policyId resource objectId relation subject,
    Quietly (store.checkPermissionDirect policyId resource objectId relation subject)
  getRelationSubjects : ∀ policyId resource objectId relation,
    Quietly (store.getRelationSubjects policyId resource objectId relation)
  getRelationTargets : ∀ policyId resource objectId relation,
    Quietly (store.getRelationTargets policyId resource objectId relation)

/-! ## Declared names are found -/

theorem PolicyLookupTable.foldl_insert_none {ι α : Type} {key : ι → String}
    {value : ι → α} {items : List ι} {map : String → Option α} {name : String}
    (missing : (items.foldl (fun entries item =>
      insert entries (key item) (value item)) map) name = none) :
    map name = none ∧ ∀ item ∈ items, key item ≠ name := by
  induction items generalizing map with
  | nil => exact ⟨missing, fun _ member => (nomatch member)⟩
  | cons item rest ih =>
    obtain ⟨before, others⟩ := ih missing
    change insert map (key item) (value item) name = none at before
    rw [insert_apply] at before
    by_cases here : name = key item
    · rw [if_pos here] at before
      cases before
    · rw [if_neg here] at before
      exact ⟨before, List.forall_mem_cons.mpr ⟨Ne.symm here, others⟩⟩

variable {source : Resource}

section Declared

variable {policy : Policy} {resource relation : String}

theorem getResource_some {found : Resource} (looked : policy.getResource resource = some found) :
    found ∈ policy.sources ∧ found.name = resource := by
  unfold Policy.getResource at looked
  unfold Policy.sources
  cases listed : policy.resources.find? fun candidate =>
      candidate.name = resource with
  | some first =>
    simp only [listed, Option.some.injEq] at looked
    rw [← looked]
    have named := List.find?_some listed
    have member := List.mem_of_find?_eq_some listed
    exact ⟨List.mem_append_left _ member, of_decide_eq_true named⟩
  | none =>
    simp only [listed] at looked
    obtain ⟨isActor, named⟩ := Option.filter_eq_some_iff.mp looked
    have member : found ∈ policy.actor.toList := by
      rw [isActor]
      exact List.mem_singleton_self found
    exact ⟨List.mem_append_right _ member, of_decide_eq_true named⟩

theorem getResource_of_mem (distinct : policy.NamesDistinct) (member : source ∈ policy.sources) :
    policy.getResource source.name = some source := by
  cases looked : policy.getResource source.name with
  | some found =>
    obtain ⟨listed, named⟩ := getResource_some looked
    rw [List.inj_on_of_nodup_map distinct listed member named]
  | none =>
    unfold Policy.getResource at looked
    cases listed : policy.resources.find? fun candidate =>
        candidate.name = source.name with
    | some first =>
      simp only [listed] at looked
      cases looked
    | none =>
      simp only [listed] at looked
      rcases List.mem_append.mp member with ordinary | actor
      · have other := List.find?_eq_none.mp listed source ordinary
        simp at other
      · rw [Option.mem_toList] at actor
        rw [Option.mem_def.mp actor, Option.filter_some] at looked
        simp at looked

theorem resourceTable_of_mem (distinct : policy.NamesDistinct) (member : source ∈ policy.sources) :
    PolicyLookupTable.resourceTable policy source.name =
      some (PolicyLookupTable.relationTable source) := by
  apply PolicyLookupTable.foldl_insert_of_unique member
  intro other listed named
  exact congrArg PolicyLookupTable.relationTable
    (List.inj_on_of_nodup_map distinct listed member named)

theorem getRelation_eq_none (missing : PolicyLookupTable.relationTable source relation = none) :
    source.getRelation relation = none := by
  cases found : source.getRelation relation with
  | none => rfl
  | some declared =>
    have named := List.find?_some found
    have member := List.mem_of_find?_eq_some found
    have other := (PolicyLookupTable.foldl_insert_none missing).2 declared member
    exact (other (of_decide_eq_true named)).elim

/-- A lookup in a declared resource misses only an undeclared relation. -/
theorem getExpression_error (distinct : policy.NamesDistinct)
    (known : (policy.getResource resource).isSome = true)
    (failed : (PolicyLookupTable.new.addPolicy policy).getExpression policy.id
      resource relation = .error failure) :
    failure = .relationNotFound resource relation ∧
      policy.getRelation resource relation = none := by
  obtain ⟨source, looked⟩ := Option.isSome_iff_exists.mp known
  obtain ⟨member, named⟩ := getResource_some looked
  have table := resourceTable_of_mem distinct member
  rw [named] at table
  unfold PolicyLookupTable.getExpression PolicyLookupTable.addPolicy
    PolicyLookupTable.insert at failed
  simp only [if_true, table] at failed
  cases entry : PolicyLookupTable.relationTable source relation with
  | some expression =>
    simp only [entry] at failed
    cases failed
  | none =>
    simp only [entry] at failed
    cases failed
    refine ⟨rfl, ?_⟩
    unfold Policy.getRelation
    rw [looked]
    exact getRelation_eq_none entry

theorem getResource_of_getRelation
    (declared : (policy.getRelation resource relation).isSome = true) :
    (policy.getResource resource).isSome = true := by
  obtain ⟨found, isRelation⟩ := Option.isSome_iff_exists.mp declared
  obtain ⟨source, looked, _⟩ := Option.bind_eq_some_iff.mp isRelation
  rw [looked]
  rfl

theorem getExpression_ne_error (distinct : policy.NamesDistinct)
    (declared : (policy.getRelation resource relation).isSome = true) :
    (PolicyLookupTable.new.addPolicy policy).getExpression policy.id resource
      relation ≠ .error failure := by
  intro failed
  have known := getResource_of_getRelation declared
  have missing := (getExpression_error distinct known failed).2
  rw [missing] at declared
  cases declared

theorem getRelation_of_getExpression (distinct : policy.NamesDistinct)
    {expression : RelationExpression}
    (found : (PolicyLookupTable.new.addPolicy policy).getExpression policy.id
      resource relation = .ok expression) :
    (policy.getRelation resource relation).isSome = true := by
  obtain ⟨source, member, named, declared, listed, relationNamed, _⟩ :=
    PolicyLookupTable.getExpression_ok found
  have looked := getResource_of_mem distinct member
  unfold Policy.getRelation
  rw [← named, looked]
  refine List.find?_isSome.mpr ⟨declared, listed, ?_⟩
  exact decide_eq_true relationNamed

end Declared

/-! ## Expressions at a resource -/

variable {tupleRelation computedRelation : String}

section Usable

/-- The expression is valid at the resource, and its arrows are those of a
declared relation. -/
structure Usable (policy : Policy) (resource : String)
    (expression : RelationExpression) : Prop where
  valid : policy.validateExpression resource expression = .ok ()
  arrows : ∀ arrow ∈ expression.arrows, policy.HasArrow resource arrow

variable {policy : Policy} {resource : String}

theorem usable_of_operands {exprs : List RelationExpression}
    (valid : Policy.validateExpression.validateOperands policy resource exprs = .ok ())
    (arrows : ∀ arrow ∈ RelationExpression.arrows.operandArrows exprs,
      policy.HasArrow resource arrow) :
    ∀ expr ∈ exprs, Usable policy resource expr := by
  induction exprs with
  | nil => exact fun _ member => (nomatch member)
  | cons expr rest ih =>
    unfold Policy.validateExpression.validateOperands at valid
    unfold RelationExpression.arrows.operandArrows at arrows
    obtain ⟨_, first, others⟩ := exceptBind_ok valid
    refine List.forall_mem_cons.mpr ⟨⟨first, ?_⟩, ?_⟩
    · intro arrow member
      exact arrows arrow (List.mem_append_left _ member)
    · apply ih others
      intro arrow member
      exact arrows arrow (List.mem_append_right _ member)

theorem Usable.union {exprs : List RelationExpression}
    (usable : Usable policy resource (.union exprs)) :
    ∀ expr ∈ exprs, Usable policy resource expr :=
  usable_of_operands (by simpa [Policy.validateExpression] using usable.valid)
    (by simpa [RelationExpression.arrows] using usable.arrows)

theorem Usable.intersection {exprs : List RelationExpression}
    (usable : Usable policy resource (.intersection exprs)) :
    ∀ expr ∈ exprs, Usable policy resource expr :=
  usable_of_operands (by simpa [Policy.validateExpression] using usable.valid)
    (by simpa [RelationExpression.arrows] using usable.arrows)

theorem Usable.difference {base subtract : RelationExpression}
    (usable : Usable policy resource (.difference base subtract)) :
    Usable policy resource base ∧ Usable policy resource subtract := by
  have valid := usable.valid
  have arrows := usable.arrows
  unfold Policy.validateExpression at valid
  unfold RelationExpression.arrows at arrows
  obtain ⟨_, first, second⟩ := exceptBind_ok valid
  constructor
  · refine ⟨first, fun arrow member => ?_⟩
    exact arrows arrow (List.mem_append_left _ member)
  · refine ⟨second, fun arrow member => ?_⟩
    exact arrows arrow (List.mem_append_right _ member)

theorem Usable.computedUserset {relation : String}
    (usable : Usable policy resource (.computedUserset relation)) :
    (policy.getRelation resource relation).isSome = true := by
  have valid := usable.valid
  unfold Policy.validateExpression at valid
  by_contra undeclared
  rw [if_pos (by simpa using undeclared)] at valid
  cases valid

theorem Usable.tupleToUserset
    (usable : Usable policy resource (.tupleToUserset tupleRelation computedRelation)) :
    (policy.getRelation resource tupleRelation).isSome = true ∧
      policy.HasArrow resource (tupleRelation, computedRelation) := by
  have valid := usable.valid
  unfold Policy.validateExpression at valid
  refine ⟨?_, usable.arrows _ (List.mem_singleton_self _)⟩
  by_contra undeclared
  rw [if_pos (by simpa using undeclared)] at valid
  cases valid

theorem usable_of_getExpression {relation : String}
    {expression : RelationExpression} (valid : policy.validate = .ok ())
    (found : (PolicyLookupTable.new.addPolicy policy).getExpression policy.id
      resource relation = .ok expression) :
    Usable policy resource expression := by
  obtain ⟨source, member, rfl, declared, listed, _, rfl⟩ := PolicyLookupTable.getExpression_ok found
  have ofSource := forM_ok_iff.mp valid source member
  have ofRelation := forM_ok_iff.mp ofSource declared listed
  refine ⟨ofRelation, fun arrow inArrows => ?_⟩
  exact ⟨source, member, rfl, declared, listed, inArrows⟩

end Usable

/-! ## Excused failures -/

variable {node : NodeId}

section Evaluation

variable {σ : Type} (policy : Policy) (content : Content)

/-- A failed lookup is excused only by a dangling arrow. -/
def Excused : Error → Prop
  | .resourceNotFound _ => False
  | .relationNotFound resource relation =>
    policy.DanglingArrow content resource relation
  | _ => True

/-- Failures are excused, and results satisfy `after`. -/
def Excuses {α : Type} (computation : Exec (CheckCache σ) Error α) (after : α → Prop) : Prop :=
  Exec.Spec (fun _ => True) computation (fun value _ => after value)
    (fun failure _ => Excused policy content failure)

variable {policy content}

theorem excused_of_not_missing (other : ¬ failure.Missing) : Excused policy content failure := by
  cases failure <;> first | trivial | exact (other trivial).elim

namespace Excuses

variable {α β : Type} {first : Exec (CheckCache σ) Error α} {after : α → Prop}

theorem pure {value : α} (holds : after value) :
    Excuses policy content (Pure.pure value : Exec (CheckCache σ) Error α)
      after :=
  Exec.Spec.pure fun _ _ => holds

theorem fail (excused : Excused policy content failure) :
    Excuses policy content (Exec.fail failure : Exec (CheckCache σ) Error α)
      after :=
  Exec.Spec.fail fun _ _ => excused

theorem bind {next : α → Exec (CheckCache σ) Error β} {later : β → Prop}
    (firstExcuses : Excuses policy content first after)
    (nextExcuses : ∀ value, after value → Excuses policy content (next value) later) :
    Excuses policy content (first >>= next) later := by
  refine Exec.Spec.bind firstExcuses fun value cache reached => ?_
  exact nextExcuses value reached cache trivial

theorem charge :
    Excuses policy content (CheckCache.charge : Exec (CheckCache σ) Error Unit) fun _ => True := by
  intro cache _
  unfold CheckCache.charge Exec.run
  by_cases within : cache.steps < maxEvaluationSteps
  · simp only [within, if_true]
  · simp only [within, if_false]
    trivial

theorem onStore {operation : Exec σ Error α} (quiet : Quietly operation) :
    Excuses policy content (CheckCache.onStore operation) fun value =>
      ∃ state final, operation.run state = (.ok value, final) := by
  intro cache _
  rw [CheckCache.run_onStore]
  match outcome : operation.run cache.store with
  | (.ok value, final) => exact ⟨cache.store, final, outcome⟩
  | (.error failure, final) =>
    exact excused_of_not_missing (quiet cache.store failure final outcome)

theorem ofExcept {result : Except Error α}
    (excused : ∀ failure, result = .error failure → Excused policy content failure) :
    Excuses policy content (Exec.ofExcept result : Exec (CheckCache σ) Error α) fun value =>
        result = .ok value :=
  Exec.Spec.ofExcept (fun _ found _ _ => found) (fun failure failed _ _ => excused failure failed)

theorem afterCharge (excuses : Excuses policy content first after) : Excuses policy content (do
        CheckCache.charge
        first) after :=
  charge.bind fun _ _ => excuses

end Excuses

theorem firstGrant_excuses {α : Type} {visit : α → Exec (CheckCache σ) Error Eval} {items : List α}
    (visits : ∀ item ∈ items, Excuses policy content (visit item) fun _ => True) (tainted : Bool) :
    Excuses policy content (firstGrant visit items tainted) fun _ => True := by
  induction items generalizing tainted with
  | nil => exact Excuses.pure trivial
  | cons item rest ih =>
    obtain ⟨visited, others⟩ := List.forall_mem_cons.mp visits
    refine visited.bind ?_
    rintro ⟨granted, itemTainted⟩ _
    cases granted with
    | true => exact Excuses.pure trivial
    | false => exact ih others _

theorem everyGrant_excuses {α : Type} {visit : α → Exec (CheckCache σ) Error Eval} {items : List α}
    (visits : ∀ item ∈ items, Excuses policy content (visit item) fun _ => True) (tainted : Bool) :
    Excuses policy content (everyGrant visit items tainted) fun _ => True := by
  induction items generalizing tainted with
  | nil => exact Excuses.pure trivial
  | cons item rest ih =>
    obtain ⟨visited, others⟩ := List.forall_mem_cons.mp visits
    refine visited.bind ?_
    rintro ⟨granted, itemTainted⟩ _
    cases granted with
    | true => exact ih others _
    | false => exact Excuses.pure trivial

/-! ### The cases of an evaluation -/

/-- The engine looks only into the policy, its store serves the content, and
the tuples of the content fit the policy. -/
structure ChecksPolicy (engine : PermissionEngine σ) (policy : Policy)
    (content : Content) : Prop where
  table : engine.lookup = PolicyLookupTable.new.addPolicy policy
  valid : policy.validate = .ok ()
  distinct : policy.NamesDistinct
  serves : engine.store.Serves content
  quiet : engine.store.Quiet
  admits : policy.Admits content

variable {engine : PermissionEngine σ} {subject : Did} {inner : PermissionEngine.Inner σ}

variable (policy content) in
/-- The evaluator excuses its failures at declared nodes. -/
def InnerExcuses (inner : PermissionEngine.Inner σ) : Prop :=
  ∀ node expression trail,
    (policy.getRelation node.resource node.relation).isSome = true →
      Usable policy node.resource expression →
        Excuses policy content (inner node expression trail) fun _ => True

theorem evaluateExprCached_excuses (innerExcuses : InnerExcuses policy content inner) :
    InnerExcuses policy content (PermissionEngine.evaluateExprCached policy.id subject inner) := by
  intro node expression trail declared usable
  have looked : Excuses policy content (Exec.gets fun cache : CheckCache σ =>
        cache.get ⟨policy.id, node, subject⟩) fun _ => True :=
    fun _ _ => trivial
  refine looked.bind fun hit _ => ?_
  cases hit with
  | some cached => exact Excuses.afterCharge (Excuses.pure trivial)
  | none =>
    refine (innerExcuses node expression trail declared usable).bind ?_
    rintro ⟨value, tainted⟩ _
    cases tainted with
    | true => exact Excuses.pure trivial
    | false =>
      have kept : Excuses policy content (Exec.modify fun cache : CheckCache σ =>
            cache.set ⟨policy.id, node, subject⟩ value) fun _ => True :=
        fun _ _ => trivial
      exact kept.bind fun _ _ => Excuses.pure trivial

section Cases

variable (checks : ChecksPolicy engine policy content)
  (innerExcuses : InnerExcuses policy content inner) (trail : NodeTrail)

include checks innerExcuses

theorem visitNode_excuses (excused : ∀ failure,
      (PolicyLookupTable.new.addPolicy policy).getExpression policy.id
          node.resource node.relation = .error failure → Excused policy content failure) :
    Excuses policy content (engine.visitNode policy.id subject inner trail node) fun _ => True := by
  unfold PermissionEngine.visitNode
  split
  · exact Excuses.pure trivial
  rw [checks.table]
  refine (Excuses.ofExcept excused).bind fun expression found => ?_
  exact evaluateExprCached_excuses innerExcuses node expression _
    (getRelation_of_getExpression checks.distinct found)
    (usable_of_getExpression checks.valid found)

theorem visitDeclared_excuses
    (declared : (policy.getRelation node.resource node.relation).isSome = true) :
    Excuses policy content (engine.visitNode policy.id subject inner trail node) fun _ => True := by
  apply visitNode_excuses checks innerExcuses trail
  intro failure failed
  exact (getExpression_ne_error checks.distinct declared failed).elim

omit checks innerExcuses in
theorem admitted_reference (admits : policy.Admits content)
    {resource objectId relation targetResource target targetRelation : String}
    (declared : (policy.getRelation resource relation).isSome = true)
    (stored : Stored content policy.id resource objectId relation
      (.entitySet targetResource target targetRelation)) :
    (policy.getResource targetResource).isSome = true ∧
      (targetRelation ≠ "" → (policy.getRelation targetResource targetRelation).isSome = true) := by
  have valid := admits _ stored declared
  unfold Relationship.validateReference at valid
  simp only at valid
  split at valid
  · rename_i edge
    split at valid
    · exact ⟨by assumption, fun named => (named edge).elim⟩
    · cases valid
  · split at valid
    · exact ⟨getResource_of_getRelation (by assumption), fun _ => by assumption⟩
    · cases valid

theorem evaluateThis_excuses
    (declared : (policy.getRelation node.resource node.relation).isSome = true) :
    Excuses policy content (engine.evaluateThis policy.id subject inner node trail)
      fun _ => True := by
  refine (Excuses.onStore (checks.quiet.checkPermissionDirect _ _ _ _ _)).bind fun granted _ => ?_
  cases granted with
  | true => exact Excuses.pure trivial
  | false =>
    refine (Excuses.onStore (checks.quiet.getRelationSubjects _ _ _ _)).bind ?_
    rintro subjects ⟨state, final, answered⟩
    have listed := checks.serves.getRelationSubjects _ _ _ _ _ _ _ answered
    apply firstGrant_excuses
    intro stored member
    cases stored with
    | entitySet resource objectId relation =>
      have reference := admitted_reference checks.admits declared ((listed _).mp member)
      refine Excuses.afterCharge ?_
      split
      · exact Excuses.pure trivial
      · rename_i named
        exact visitDeclared_excuses checks innerExcuses trail (reference.2 named)
    | _ => exact Excuses.afterCharge (Excuses.pure trivial)

/-- An arrow finds its target, except for an undeclared computed relation. -/
theorem visitArrow_excuses {resource objectId relation : String}
    (usable : Usable policy node.resource (.tupleToUserset tupleRelation computedRelation))
    (stored : Stored content policy.id node.resource node.objectId
      tupleRelation (.entitySet resource objectId relation)) :
    Excuses policy content
      (engine.visitNode policy.id subject inner trail
        ⟨resource, objectId, computedRelation⟩) fun _ => True := by
  obtain ⟨declared, arrow⟩ := usable.tupleToUserset
  apply visitNode_excuses checks innerExcuses trail
  intro failure failed
  have known := (admitted_reference checks.admits declared stored).1
  obtain ⟨isMissing, undeclared⟩ := getExpression_error checks.distinct known failed
  rw [isMissing]
  exact ⟨undeclared, node.resource, tupleRelation, arrow, node.objectId, objectId, relation, stored⟩

theorem evaluateTupleToUserset_excuses
    (usable : Usable policy node.resource (.tupleToUserset tupleRelation computedRelation)) :
    Excuses policy content
      (engine.evaluateTupleToUserset policy.id subject inner node trail
        tupleRelation computedRelation) fun _ => True := by
  refine (Excuses.onStore (checks.quiet.getRelationTargets _ _ _ _)).bind ?_
  rintro targets ⟨state, final, answered⟩
  have reached := checks.serves.getRelationTargets _ _ _ _ _ _ _ answered
  have visited : Excuses policy content
      (firstGrant (engine.visitTarget policy.id subject inner trail
        computedRelation) targets false) fun _ => True := by
    apply firstGrant_excuses
    intro target member
    obtain ⟨relation, stored⟩ := (reached target).mp member
    exact Excuses.afterCharge (visitArrow_excuses checks innerExcuses trail usable stored)
  refine visited.bind ?_
  rintro ⟨granted, tainted⟩ _
  cases granted with
  | true => exact Excuses.pure trivial
  | false =>
    refine (Excuses.onStore (checks.quiet.getRelationSubjects _ _ _ _)).bind ?_
    rintro subjects ⟨state, final, answered⟩
    have listed := checks.serves.getRelationSubjects _ _ _ _ _ _ _ answered
    apply firstGrant_excuses
    intro stored member
    cases stored with
    | entitySet resource objectId relation =>
      exact Excuses.afterCharge
        (visitArrow_excuses checks innerExcuses trail usable ((listed _).mp member))
    | _ => exact Excuses.afterCharge (Excuses.pure trivial)

theorem evaluateCases_excuses :
    InnerExcuses policy content (engine.evaluateCases policy.id subject inner) := by
  intro node expression trail declared usable
  cases expression with
  | this => exact evaluateThis_excuses checks innerExcuses trail declared
  | computedUserset relation =>
    exact visitDeclared_excuses checks innerExcuses trail usable.computedUserset
  | tupleToUserset tupleRelation computedRelation =>
    exact evaluateTupleToUserset_excuses checks innerExcuses trail usable
  | union exprs =>
    apply firstGrant_excuses
    intro expr member
    exact innerExcuses node expr trail declared (usable.union expr member)
  | intersection exprs =>
    apply everyGrant_excuses
    intro expr member
    exact innerExcuses node expr trail declared (usable.intersection expr member)
  | difference base subtract =>
    obtain ⟨usableBase, usableSubtract⟩ := usable.difference
    refine (innerExcuses node base trail declared usableBase).bind ?_
    rintro ⟨baseGranted, baseTainted⟩ _
    cases baseGranted with
    | false => exact Excuses.pure trivial
    | true =>
      refine (innerExcuses node subtract trail declared usableSubtract).bind ?_
      rintro ⟨subtractGranted, subtractTainted⟩ _
      cases subtractTainted with
      | true => exact Excuses.fail trivial
      | false => exact Excuses.pure trivial

end Cases

theorem evaluateExprInner_excuses (checks : ChecksPolicy engine policy content) (remaining : Nat) :
    InnerExcuses policy content (engine.evaluateExprInner policy.id subject remaining) := by
  induction remaining with
  | zero =>
    intro node expression trail _ _
    exact Excuses.afterCharge (Excuses.fail trivial)
  | succ remaining ih =>
    intro node expression trail declared usable
    exact Excuses.afterCharge
      (evaluateCases_excuses checks ih node expression trail declared usable)

theorem checkWithCache_excuses (checks : ChecksPolicy engine policy content) {node : NodeId}
    (declared : (policy.getRelation node.resource node.relation).isSome = true) :
    Excuses policy content (engine.checkWithCache policy.id subject node) fun _ => True := by
  unfold PermissionEngine.checkWithCache
  rw [checks.table]
  have looked : ∀ failure,
      (PolicyLookupTable.new.addPolicy policy).getExpression policy.id
          node.resource node.relation = .error failure →
        Excused policy content failure := by
    intro failure failed
    exact (getExpression_ne_error checks.distinct declared failed).elim
  refine (Excuses.ofExcept looked).bind fun expression found => ?_
  refine Excuses.bind (evaluateExprCached_excuses
    (evaluateExprInner_excuses checks maxEvaluationDepth) node expression
    [node] declared (usable_of_getExpression checks.valid found)) ?_
  exact fun _ _ => Excuses.pure trivial

theorem check_excused (checks : ChecksPolicy engine policy content) {resource relation : String}
    (declared : (policy.getRelation resource relation).isSome = true)
    (objectId : String) (store : σ)
    (failed : ((engine.check ⟨policy.id, resource, objectId, relation,
      subject⟩).run store).1 = .error failure) :
    Excused policy content failure := by
  have excuses := @checkWithCache_excuses _ _ _ _ subject checks
    ⟨resource, objectId, relation⟩ declared (CheckCache.new store) trivial
  change ((engine.checkWithCache policy.id subject
    ⟨resource, objectId, relation⟩).run (CheckCache.new store)).1 = _ at failed
  match outcome : (engine.checkWithCache policy.id subject
      ⟨resource, objectId, relation⟩).run (CheckCache.new store) with
  | (.ok granted, final) =>
    rw [outcome] at failed
    cases failed
  | (.error other, final) =>
    rw [outcome] at failed excuses
    cases failed
    exact excuses

end Evaluation

end VeraHub.Zanzibar

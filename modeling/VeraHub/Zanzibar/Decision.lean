import VeraHub.Zanzibar.Verdict

/-!
# Decisions of the engine

Every decision equals the well-founded meaning of its node, although revisited
nodes are truncated, loops stop early and results are shared through the cache.
Each part of the evaluation returns a verdict and keeps the cache sound; for a
root request the trail is the root alone, so a derivation of least rank refutes
the last explanation of a denial.
-/

namespace VeraHub.Zanzibar

variable {node : NodeId} {lookup : PolicyLookupTable} {positive negative : Set Goal}

section Evaluation

variable {σ : Type} (engine : PermissionEngine σ) (content : Content)
  (policyId : String) (subject : Did)

/-- From a sound cache the computation ends with a sound cache, and a result
satisfies `after`. -/
def Keeps {α : Type} (computation : Exec (CheckCache σ) Error α) (after : α → Prop) : Prop :=
  Exec.Spec (CacheSound engine.lookup content) computation (fun value cache =>
      CacheSound engine.lookup content cache ∧ after value)
    (fun _ cache => CacheSound engine.lookup content cache)

/-- The computation keeps the cache sound and decides the condition. -/
def Decides (trail : NodeTrail) (condition : Condition)
    (computation : Exec (CheckCache σ) Error Eval) : Prop :=
  Keeps engine content computation (Verdict engine.lookup content policyId subject trail condition)

variable {engine content policyId subject}

namespace Keeps

variable {α β : Type} {first : Exec (CheckCache σ) Error α} {after after' : α → Prop}

theorem weaken (kept : Keeps engine content first after)
    (implies : ∀ value, after value → after' value) :
    Keeps engine content first after' :=
  Exec.Spec.weaken kept (fun _ start => start)
    (fun value _ reached => ⟨reached.1, implies value reached.2⟩) (fun _ _ reached => reached)

theorem pure {value : α} (holds : after value) :
    Keeps engine content (Pure.pure value) after :=
  Exec.Spec.pure fun _ sound => ⟨sound, holds⟩

theorem fail {failure : Error} :
    Keeps engine content (Exec.fail failure) after :=
  Exec.Spec.fail fun _ sound => sound

theorem bind {next : α → Exec (CheckCache σ) Error β} {later : β → Prop}
    (firstKept : Keeps engine content first after)
    (nextKept : ∀ value, after value → Keeps engine content (next value) later) :
    Keeps engine content (first >>= next) later := by
  refine Exec.Spec.bind firstKept fun value cache reached => ?_
  exact nextKept value reached.2 cache reached.1

variable {cache : CheckCache σ}

theorem cacheSound (kept : Keeps engine content first after)
    (sound : CacheSound engine.lookup content cache) :
    CacheSound engine.lookup content (first.run cache).2 :=
  Exec.Spec.final
    (Exec.Spec.weaken kept (fun _ start => start)
      (fun _ _ reached => reached.1) (fun _ _ reached => reached))
    sound

theorem result (kept : Keeps engine content first after)
    (sound : CacheSound engine.lookup content cache) {value : α}
    (success : (first.run cache).1 = .ok value) : after value :=
  (Exec.Spec.ok kept sound (Prod.ext success rfl)).2

theorem charge : Keeps engine content CheckCache.charge fun _ => True := by
  intro cache sound
  unfold CheckCache.charge Exec.run
  by_cases within : cache.steps < maxEvaluationSteps
  · simp only [within, if_true]
    exact ⟨sound, trivial⟩
  · simp only [within, if_false]
    exact sound

theorem onStore (operation : Exec σ Error α) :
    Keeps engine content (CheckCache.onStore operation) fun value =>
      ∃ state final, operation.run state = (.ok value, final) := by
  intro cache sound
  rw [CheckCache.run_onStore]
  match outcome : operation.run cache.store with
  | (.ok value, final) => exact ⟨sound, cache.store, final, outcome⟩
  | (.error failure, final) => exact sound

theorem ofExcept (result : Except Error α) :
    Keeps engine content (Exec.ofExcept result) fun value =>
      result = .ok value :=
  Exec.Spec.ofExcept (fun _ found _ sound => ⟨sound, found⟩) (fun _ _ _ sound => sound)

theorem cached (key : CheckKey) :
    Keeps engine content (Exec.gets fun cache : CheckCache σ => cache.get key) fun hit =>
        ∀ value, hit = some value →
          EntrySound engine.lookup content (key, value) :=
  fun _ sound => ⟨sound, fun _ hit => sound.get hit⟩

theorem store {key : CheckKey} {value : Bool}
    (entrySound : EntrySound engine.lookup content (key, value)) :
    Keeps engine content (Exec.modify fun cache : CheckCache σ => cache.set key value)
      fun _ => True :=
  Exec.Spec.modify fun _ sound => ⟨sound.set entrySound, trivial⟩

theorem afterCharge (kept : Keeps engine content first after) : Keeps engine content (do
        CheckCache.charge
        first) after :=
  charge.bind fun _ _ => kept

end Keeps

variable {trail : NodeTrail}

theorem Decides.congr {condition condition' : Condition}
    {computation : Exec (CheckCache σ) Error Eval}
    (equivalent : ∀ positive negative, condition positive negative ↔ condition' positive negative)
    (decides : Decides engine content policyId subject trail condition computation) :
    Decides engine content policyId subject trail condition' computation :=
  Keeps.weaken decides fun _ verdict => verdict.congr equivalent

/-! ### Loops -/

/-- A loop that stops at the first grant decides whether some item grants; an
untainted denial also means that the loop began untainted. -/
theorem firstGrant_decides {α : Type} {condition : α → Condition}
    {visit : α → Exec (CheckCache σ) Error Eval}
    (visits : ∀ item, Decides engine content policyId subject trail (condition item) (visit item))
    (items : List α) (tainted : Bool) :
    Keeps engine content (firstGrant visit items tainted) fun decision =>
      Verdict engine.lookup content policyId subject trail (fun positive negative =>
            ∃ item ∈ items, condition item positive negative)
          decision ∧
        (decision = (false, false) → tainted = false) := by
  induction items generalizing tainted with
  | nil =>
    refine Keeps.pure ⟨Verdict.deny (by simp) tainted, ?_⟩
    intro denial
    exact congrArg Prod.snd denial
  | cons item rest ih =>
    refine Keeps.bind (visits item) ?_
    rintro ⟨granted, itemTainted⟩ verdict
    cases granted with
    | true =>
      have holds := verdict.granted rfl
      refine Keeps.pure ⟨Verdict.grant ?_ itemTainted, by simp⟩
      exact ⟨item, List.mem_cons_self, holds⟩
    | false =>
      refine Keeps.weaken (ih (tainted || itemTainted)) ?_
      rintro decision ⟨restVerdict, untainted⟩
      refine ⟨⟨?_, ?_, ?_⟩, ?_⟩
      · intro grant
        obtain ⟨found, listed, holds⟩ := restVerdict.granted grant
        exact ⟨found, List.mem_cons_of_mem item listed, holds⟩
      · rintro denial ⟨found, listed, holds⟩
        have clean := untainted denial
        rw [Bool.or_eq_false_iff] at clean
        rcases List.mem_cons.mp listed with rfl | inRest
        · exact verdict.refuted (by rw [clean.2]) holds
        · exact restVerdict.refuted denial ⟨found, inRest, holds⟩
      · rintro denial rank ⟨found, listed, holds⟩
        rcases List.mem_cons.mp listed with rfl | inRest
        · exact verdict.explained rfl rank holds
        · exact restVerdict.explained denial rank ⟨found, inRest, holds⟩
      · intro denial
        exact (Bool.or_eq_false_iff.mp (untainted denial)).1

/-- A loop that stops at the first denial decides whether all items grant. -/
theorem everyGrant_decides {α : Type} {condition : α → Condition}
    {visit : α → Exec (CheckCache σ) Error Eval}
    (visits : ∀ item, Decides engine content policyId subject trail (condition item) (visit item))
    (items : List α) (tainted : Bool) :
    Decides engine content policyId subject trail (fun positive negative =>
        ∀ item ∈ items, condition item positive negative)
      (everyGrant visit items tainted) := by
  induction items generalizing tainted with
  | nil =>
    exact Keeps.pure (Verdict.grant (by simp) tainted)
  | cons item rest ih =>
    refine Keeps.bind (visits item) ?_
    rintro ⟨granted, itemTainted⟩ verdict
    cases granted with
    | true =>
      refine Keeps.weaken (ih (tainted || itemTainted)) ?_
      intro decision restVerdict
      refine ⟨?_, ?_, ?_⟩
      · intro grant
        exact List.forall_mem_cons.mpr ⟨verdict.granted rfl, restVerdict.granted grant⟩
      · intro denial holds
        exact restVerdict.refuted denial (List.forall_mem_cons.mp holds).2
      · intro denial rank holds
        exact restVerdict.explained denial rank (List.forall_mem_cons.mp holds).2
    | false =>
      refine Keeps.pure ⟨by simp, ?_, ?_⟩
      · intro denial holds
        exact verdict.refuted denial (holds item List.mem_cons_self)
      · intro denial rank holds
        exact verdict.explained denial rank (holds item List.mem_cons_self)

/-! ### Rules -/

/-- What a stored subject of the relation itself contributes beyond a direct
grant. -/
def SubjectGrants (lookup : PolicyLookupTable) (policyId : String)
    (subject : Did) : Subject → Condition
  | .entitySet resource objectId relation => fun positive _ =>
    if relation = "" then
      lookup.isActorResource policyId resource = true ∧ objectId = subject.asStr
    else
      HoldsAt lookup policyId positive ⟨resource, objectId, relation⟩
  | _ => fun _ _ => False

theorem derives_this_iff :
    Derives lookup content policyId subject positive negative (node, .this) ↔
      (Stored content policyId node.resource node.objectId node.relation (.entity subject) ∨
        Stored content policyId node.resource node.objectId node.relation .wildcard ∨
          ∃ kind, Stored content policyId node.resource node.objectId
            node.relation (.typedWildcard kind)) ∨
      ∃ stored, Stored content policyId node.resource node.objectId node.relation stored ∧
        SubjectGrants lookup policyId subject stored positive negative := by
  constructor
  · intro derived
    cases derived with
    | direct stored => exact .inl (.inl stored)
    | wildcard stored => exact .inl (.inr (.inl stored))
    | typedWildcard stored => exact .inl (.inr (.inr ⟨_, stored⟩))
    | actorEntity actor stored =>
      exact .inr ⟨_, stored, by simp [SubjectGrants, actor]⟩
    | entitySet nonempty stored holds =>
      refine .inr ⟨_, stored, ?_⟩
      simp only [SubjectGrants, nonempty, if_false]
      exact holds
  · rintro ((stored | stored | ⟨kind, stored⟩) | ⟨stored, found, grants⟩)
    · exact .direct stored
    · exact .wildcard stored
    · exact .typedWildcard stored
    · cases stored with
      | entitySet resource objectId relation =>
        simp only [SubjectGrants] at grants
        by_cases empty : relation = ""
        · simp only [empty, if_true] at grants found
          obtain ⟨actor, rfl⟩ := grants
          exact .actorEntity actor found
        · simp only [empty, if_false] at grants
          have nonempty : (⟨resource, objectId, relation⟩ : NodeId).relation ≠ "" := empty
          exact .entitySet nonempty found grants
      | entity did => exact grants.elim
      | typedWildcard resource => exact grants.elim
      | wildcard => exact grants.elim

/-- What a stored subject of the tuple relation contributes. -/
def TupleSubjectGrants (lookup : PolicyLookupTable) (policyId : String)
    (computedRelation : String) : Subject → Condition
  | .entitySet resource objectId _ => fun positive _ =>
    HoldsAt lookup policyId positive ⟨resource, objectId, computedRelation⟩
  | .typedWildcard _ => fun _ _ => True
  | .wildcard => fun _ _ => True
  | .entity _ => fun _ _ => False

theorem derives_tupleToUserset_iff {tupleRelation computedRelation : String} :
    Derives lookup content policyId subject positive negative
        (node, .tupleToUserset tupleRelation computedRelation) ↔
      ∃ stored, Stored content policyId node.resource node.objectId tupleRelation stored ∧
        TupleSubjectGrants lookup policyId computedRelation stored
          positive negative := by
  constructor
  · intro derived
    cases derived with
    | tupleWildcard stored => exact ⟨_, stored, trivial⟩
    | tupleTypedWildcard stored => exact ⟨_, stored, trivial⟩
    | tupleToUserset stored holds => exact ⟨_, stored, holds⟩
  · rintro ⟨stored, found, grants⟩
    cases stored with
    | entitySet resource objectId relation =>
      exact .tupleToUserset found grants
    | typedWildcard resource => exact .tupleTypedWildcard found
    | wildcard => exact .tupleWildcard found
    | entity did => exact grants.elim

theorem derives_computedUserset_iff {relation : String} :
    Derives lookup content policyId subject positive negative (node, .computedUserset relation) ↔
      HoldsAt lookup policyId positive ⟨node.resource, node.objectId, relation⟩ := by
  constructor
  · rintro (_ | _)
    assumption
  · exact .computedUserset

variable {exprs : List RelationExpression}

theorem derives_union_iff :
    Derives lookup content policyId subject positive negative (node, .union exprs) ↔
      ∃ expr ∈ exprs, (node, expr) ∈ positive := by
  constructor
  · rintro (_ | _)
    exact ⟨_, ‹_›, ‹_›⟩
  · rintro ⟨expr, listed, member⟩
    exact .union listed member

theorem derives_intersection_iff :
    Derives lookup content policyId subject positive negative (node, .intersection exprs) ↔
      ∀ expr ∈ exprs, (node, expr) ∈ positive := by
  constructor
  · rintro (_ | _)
    assumption
  · exact .intersection

theorem derives_difference_iff {base subtract : RelationExpression} :
    Derives lookup content policyId subject positive negative (node, .difference base subtract) ↔
      (node, base) ∈ positive ∧ (node, subtract) ∉ negative := by
  constructor
  · rintro (_ | _)
    exact ⟨‹_›, ‹_›⟩
  · rintro ⟨baseMember, subtractAbsent⟩
    exact .difference baseMember subtractAbsent

/-! ### Answers of the store -/

/-- The direct answer grants the relation itself, and a refused one leaves it to
the stored subjects. -/
theorem Keeps.direct (serves : engine.store.Serves content) (node : NodeId) :
    Keeps engine content (CheckCache.onStore (engine.store.checkPermissionDirect policyId
        node.resource node.objectId node.relation subject)) fun granted =>
      ∀ positive negative, Rule engine.lookup content policyId subject node .this
        positive negative ↔ granted = true ∨
          ∃ stored, Stored content policyId node.resource node.objectId node.relation stored ∧
            SubjectGrants engine.lookup policyId subject stored positive negative := by
  refine Keeps.weaken (Keeps.onStore _) ?_
  rintro granted ⟨state, final, answered⟩ positive negative
  rw [serves.checkPermissionDirect _ _ _ _ _ _ _ _ answered]
  exact derives_this_iff

theorem Keeps.subjects (serves : engine.store.Serves content) (node : NodeId) (relation : String) :
    Keeps engine content (CheckCache.onStore (engine.store.getRelationSubjects policyId
        node.resource node.objectId relation)) fun subjects =>
      ∀ stored, stored ∈ subjects ↔
        Stored content policyId node.resource node.objectId relation stored := by
  refine Keeps.weaken (Keeps.onStore _) ?_
  rintro subjects ⟨state, final, answered⟩
  exact serves.getRelationSubjects _ _ _ _ _ _ _ answered

theorem Keeps.targets (serves : engine.store.Serves content) (node : NodeId) (relation : String) :
    Keeps engine content (CheckCache.onStore (engine.store.getRelationTargets policyId
        node.resource node.objectId relation)) fun targets =>
      ∀ target ∈ targets, ∃ edge, Stored content policyId node.resource node.objectId relation
        (.entitySet target.resource target.objectId edge) := by
  refine Keeps.weaken (Keeps.onStore _) ?_
  rintro targets ⟨state, final, answered⟩ target listed
  exact (serves.getRelationTargets _ _ _ _ _ _ _ answered target).mp listed

/-! ### Cases -/

/-- The evaluation of nested expressions decides their rules. -/
def InnerDecides (engine : PermissionEngine σ) (content : Content)
    (policyId : String) (subject : Did) (inner : PermissionEngine.Inner σ) : Prop :=
  ∀ node expression trail, Decides engine content policyId subject trail
    (Rule engine.lookup content policyId subject node expression) (inner node expression trail)

section Cases

variable {inner : PermissionEngine.Inner σ} {trail : NodeTrail}
  (innerDecides : InnerDecides engine content policyId subject inner)

include innerDecides

theorem evaluateExprCached_decides {expression : RelationExpression}
    (found : engine.lookup.getExpression policyId node.resource node.relation = .ok expression) :
    Decides engine content policyId subject trail (Reached engine.lookup policyId node)
      (PermissionEngine.evaluateExprCached policyId subject inner
        node expression (node :: trail)) := by
  unfold PermissionEngine.evaluateExprCached
  refine Keeps.bind (Keeps.cached _) fun hit entriesSound => ?_
  cases hit with
  | some cached =>
    have entrySound := entriesSound cached rfl
    refine Keeps.afterCharge (Keeps.pure ⟨entrySound.1, ?_, ?_⟩)
    · intro denial
      exact entrySound.2 (congrArg Prod.fst denial)
    · intro denial rank holds
      have possible := holds.mono
        ((derivable_subset_certain rank).trans (RuleOperator.certain_subset_possible _))
      exact absurd possible (entrySound.2 denial)
  | none =>
    refine Keeps.bind (innerDecides node expression (node :: trail)) ?_
    rintro ⟨value, tainted⟩ verdict
    have left := verdict.leaveNode found
    cases tainted with
    | true => exact Keeps.pure left
    | false =>
      have entrySound :
          EntrySound engine.lookup content (⟨policyId, node, subject⟩, value) :=
        ⟨left.granted, fun denied => left.refuted (by rw [← denied])⟩
      exact Keeps.bind (Keeps.store entrySound) fun _ _ =>
        Keeps.pure left

theorem visitNode_decides (node : NodeId) :
    Decides engine content policyId subject trail (Reached engine.lookup policyId node)
      (engine.visitNode policyId subject inner trail node) := by
  unfold PermissionEngine.visitNode
  by_cases onTrail : node ∈ trail
  · rw [if_pos onTrail]
    exact Keeps.pure (Verdict.onTrail onTrail)
  · rw [if_neg onTrail]
    exact Keeps.bind (Keeps.ofExcept _) fun expression found =>
      evaluateExprCached_decides innerDecides found

theorem visitThisSubject_decides (stored : Subject) :
    Decides engine content policyId subject trail
      (SubjectGrants engine.lookup policyId subject stored)
      (engine.visitThisSubject policyId subject inner trail stored) := by
  cases stored with
  | entitySet resource objectId relation =>
    refine Keeps.afterCharge ?_
    by_cases empty : relation = ""
    · simp only [empty, if_true, SubjectGrants]
      by_cases actor :
          engine.lookup.isActorResource policyId resource = true ∧ objectId = subject.asStr
      · simp only [actor, beq_self_eq_true, Bool.and_self]
        exact Keeps.pure (Verdict.grant (by simp) false)
      · have denied :
            (engine.lookup.isActorResource policyId resource &&
              objectId == subject.asStr) = false := by
          simpa using actor
        rw [denied]
        exact Keeps.pure (Verdict.deny (fun _ _ => actor) false)
    · simp only [empty, if_false, SubjectGrants]
      exact visitNode_decides innerDecides _
  | entity did =>
    exact Keeps.afterCharge (Keeps.pure (Verdict.deny (by simp [SubjectGrants]) false))
  | typedWildcard resource =>
    exact Keeps.afterCharge (Keeps.pure (Verdict.deny (by simp [SubjectGrants]) false))
  | wildcard =>
    exact Keeps.afterCharge (Keeps.pure (Verdict.deny (by simp [SubjectGrants]) false))

theorem evaluateThis_decides (serves : engine.store.Serves content) (node : NodeId) :
    Decides engine content policyId subject trail
      (Rule engine.lookup content policyId subject node .this)
      (engine.evaluateThis policyId subject inner node trail) := by
  refine Keeps.bind (Keeps.direct serves node) fun granted rule => ?_
  by_cases grant : granted = true
  · rw [if_pos grant]
    exact Keeps.pure (Verdict.grant ((rule _ _).mpr (.inl grant)) false)
  · rw [if_neg grant]
    refine Keeps.bind (Keeps.subjects serves node _) fun subjects listed => ?_
    refine Keeps.weaken
      (firstGrant_decides (visitThisSubject_decides innerDecides) subjects false) ?_
    rintro decision ⟨verdict, _⟩
    refine verdict.congr fun positive negative => ?_
    simp only [rule, grant, false_or, listed, Bool.false_eq_true]

theorem visitTupleSubject_decides (computedRelation : String) (stored : Subject) :
    Decides engine content policyId subject trail
      (TupleSubjectGrants engine.lookup policyId computedRelation stored)
      (engine.visitTupleSubject policyId subject inner trail
        computedRelation stored) := by
  cases stored with
  | entitySet resource objectId relation =>
    exact Keeps.afterCharge (visitNode_decides innerDecides _)
  | typedWildcard resource =>
    exact Keeps.afterCharge (Keeps.pure (Verdict.grant trivial false))
  | wildcard =>
    exact Keeps.afterCharge (Keeps.pure (Verdict.grant trivial false))
  | entity did =>
    exact Keeps.afterCharge (Keeps.pure (Verdict.deny (fun _ _ => id) false))

/-- The second loop alone decides the rule; the first one, over the target
objects of the same tuples, can only grant what the rule grants. -/
theorem evaluateTupleToUserset_decides (serves : engine.store.Serves content)
    (node : NodeId) (tupleRelation computedRelation : String) :
    Decides engine content policyId subject trail
      (Rule engine.lookup content policyId subject node
        (.tupleToUserset tupleRelation computedRelation))
      (engine.evaluateTupleToUserset policyId subject inner node trail
        tupleRelation computedRelation) := by
  refine Keeps.bind (Keeps.targets serves node _) fun targets targetStored => ?_
  have visits : ∀ target : ObjectRef,
      Decides engine content policyId subject trail
        (Reached engine.lookup policyId ⟨target.resource, target.objectId, computedRelation⟩)
        (engine.visitTarget policyId subject inner trail
          computedRelation target) :=
    fun target => Keeps.afterCharge (visitNode_decides innerDecides _)
  refine Keeps.bind (firstGrant_decides visits targets false) ?_
  rintro ⟨granted, tainted⟩ ⟨verdict, _⟩
  cases granted with
  | true =>
    refine Keeps.pure (Verdict.grant ?_ tainted)
    obtain ⟨target, listed, holds⟩ := verdict.granted rfl
    obtain ⟨edge, stored⟩ := targetStored target listed
    exact .tupleToUserset stored holds
  | false =>
    refine Keeps.bind (Keeps.subjects serves node _) fun subjects listed => ?_
    refine Keeps.weaken
      (firstGrant_decides (visitTupleSubject_decides innerDecides computedRelation)
        subjects tainted) ?_
    rintro decision ⟨subjectVerdict, _⟩
    refine subjectVerdict.congr fun positive negative => ?_
    simp only [derives_tupleToUserset_iff, listed]

theorem InnerDecides.member (node : NodeId) (expression : RelationExpression) :
    Decides engine content policyId subject trail (fun positive _ => (node, expression) ∈ positive)
      (inner node expression trail) :=
  Keeps.weaken (innerDecides node expression trail) fun _ verdict =>
    verdict.ofDerives

/-- The subtracted side is negated only when it is untainted, that is when its
denial is definite. -/
theorem evaluateDifference_decides (node : NodeId) (base subtract : RelationExpression) :
    Decides engine content policyId subject trail
      (Rule engine.lookup content policyId subject node (.difference base subtract))
      (PermissionEngine.evaluateDifference inner node trail
        base subtract) := by
  refine Decides.congr (fun _ _ => derives_difference_iff.symm) ?_
  refine Keeps.bind (innerDecides.member node base) ?_
  rintro ⟨baseGranted, baseTainted⟩ baseVerdict
  cases baseGranted with
  | false =>
    refine Keeps.pure ⟨by simp, ?_, ?_⟩
    · intro denial holds
      exact baseVerdict.refuted denial holds.1
    · intro denial rank holds
      exact baseVerdict.explained denial rank holds.1
  | true =>
    have baseCertain := baseVerdict.granted rfl
    refine Keeps.bind (innerDecides.member node subtract) ?_
    rintro ⟨subtractGranted, subtractTainted⟩ subtractVerdict
    cases subtractTainted with
    | true => exact Keeps.fail
    | false =>
      cases subtractGranted with
      | false =>
        exact Keeps.pure (Verdict.grant ⟨baseCertain, subtractVerdict.refuted rfl⟩ baseTainted)
      | true =>
        have subtractCertain := subtractVerdict.granted rfl
        refine Keeps.pure ⟨by simp, ?_, ?_⟩
        · intro _ holds
          exact holds.2 subtractCertain
        · intro _ _ holds
          exact absurd (RuleOperator.certain_subset_possible _ subtractCertain) holds.2

theorem evaluateCases_decides (serves : engine.store.Serves content) :
    InnerDecides engine content policyId subject (engine.evaluateCases policyId subject inner) := by
  intro node expression trail
  cases expression with
  | this => exact evaluateThis_decides innerDecides serves node
  | computedUserset relation =>
    exact Decides.congr (fun _ _ => derives_computedUserset_iff.symm)
      (visitNode_decides innerDecides _)
  | tupleToUserset tupleRelation computedRelation =>
    exact evaluateTupleToUserset_decides innerDecides serves node tupleRelation computedRelation
  | union exprs =>
    refine Keeps.weaken (firstGrant_decides (innerDecides.member node) exprs false) ?_
    rintro decision ⟨verdict, _⟩
    exact verdict.congr fun _ _ => derives_union_iff.symm
  | intersection exprs =>
    exact Decides.congr (fun _ _ => derives_intersection_iff.symm)
      (everyGrant_decides (innerDecides.member node) exprs false)
  | difference base subtract =>
    exact evaluateDifference_decides innerDecides node base subtract

end Cases

theorem evaluateExprInner_decides (serves : engine.store.Serves content) (remaining : ℕ) :
    InnerDecides engine content policyId subject
      (engine.evaluateExprInner policyId subject remaining) := by
  induction remaining with
  | zero =>
    intro node expression trail
    exact Keeps.afterCharge Keeps.fail
  | succ remaining ih =>
    intro node expression trail
    exact Keeps.afterCharge (evaluateCases_decides ih serves node expression trail)

/-! ### Requests -/

theorem Verdict.decides_of_nil {decision : Eval}
    (verdict :
      Verdict lookup content policyId subject [] (Reached lookup policyId node) decision) :
    decision.1 = true ↔ Granted lookup content policyId subject node := by
  constructor
  · exact verdict.granted
  · rintro ⟨expression, found, certain⟩
    by_contra denied
    obtain ⟨rank, derived, _⟩ :=
      RuleOperator.exists_least_stage_of_mem_certain _ rewriteRules_finitary certain
    obtain ⟨_, onTrail, _⟩ :=
      verdict.explained (Bool.eq_false_iff.mpr denied) rank ⟨expression, found, derived⟩
    cases onTrail

theorem checkWithCache_decides (serves : engine.store.Serves content) (node : NodeId) :
    Keeps engine content (engine.checkWithCache policyId subject node) fun granted =>
        granted = true ↔
          Granted engine.lookup content policyId subject node := by
  refine Keeps.bind (Keeps.ofExcept _) fun expression found => ?_
  refine Keeps.bind
    (evaluateExprCached_decides (evaluateExprInner_decides serves maxEvaluationDepth) found) ?_
  rintro ⟨granted, tainted⟩ verdict
  exact Keeps.pure verdict.decides_of_nil

/-- The result of a request, when it is a decision, is the decision of the
trail-free meaning. -/
def RequestDecided (lookup : PolicyLookupTable) (content : Content)
    (request : PermissionCheckRequest) (result : Except Error Bool) : Prop :=
  ∀ granted, result = .ok granted →
    (granted = true ↔ Granted lookup content request.policyId request.subject request.node)

theorem checkWithCache_step (serves : engine.store.Serves content)
    (request : PermissionCheckRequest) {cache : CheckCache σ}
    (sound : CacheSound engine.lookup content cache) :
    let outcome := (engine.checkWithCache request.policyId request.subject request.node).run cache
    RequestDecided engine.lookup content request outcome.1 ∧
      CacheSound engine.lookup content outcome.2 := by
  intro outcome
  have kept :=
    @checkWithCache_decides _ engine content request.policyId request.subject serves request.node
  refine ⟨fun granted decided => ?_, kept.cacheSound sound⟩
  exact kept.result sound decided

theorem checkEach_decides (serves : engine.store.Serves content)
    (requests : List PermissionCheckRequest) {cache : CheckCache σ}
    (sound : CacheSound engine.lookup content cache) :
    List.Forall₂ (RequestDecided engine.lookup content) requests
        (engine.checkEach requests cache).1 ∧
      CacheSound engine.lookup content (engine.checkEach requests cache).2 := by
  induction requests generalizing cache with
  | nil => exact ⟨.nil, sound⟩
  | cons request rest ih =>
    obtain ⟨decided, nextSound⟩ := checkWithCache_step serves request sound
    obtain ⟨restDecided, finalSound⟩ := ih nextSound
    exact ⟨.cons decided restDecided, finalSound⟩

/-- Every decision of a check and of a batch in any order is the decision of
the trail-free meaning, and so is every entry of the shared cache. -/
theorem checks_decide_trail_free_meaning (engine : PermissionEngine σ) (content : Content)
    (serves : engine.store.Serves content) (store : σ) :
    (∀ request, RequestDecided engine.lookup content request ((engine.check request).run store).1) ∧
      ∀ requests,
        List.Forall₂ (RequestDecided engine.lookup content) requests
            (engine.checkMany requests store).1 ∧
          ∀ entry ∈ (engine.checkMany requests store).2.results,
            EntrySound engine.lookup content entry := by
  constructor
  · intro request
    exact (checkWithCache_step serves request (cacheSound_new store)).1
  · intro requests
    exact checkEach_decides serves requests (cacheSound_new store)

end Evaluation

/-! ## Two groups that contain each other -/

def alice : Did :=
  ⟨"did:key:alice", Did.supported_alice⟩

def bob : Did :=
  ⟨"did:key:bob", Did.supported_bob⟩

/-- Readers of a document may view it unless they are banned. -/
def groupPolicy : Policy where
  id := "policy"
  name := "groups"
  description := ""
  actor := none
  resources :=
    [⟨"group", "", [⟨"member", "", .this, none, []⟩]⟩,
      ⟨"document", "",
        [⟨"reader", "", .this, none, []⟩, ⟨"banned", "", .this, none, []⟩,
          ⟨"viewer", "",
            .difference (.computedUserset "reader") (.computedUserset "banned"), none, []⟩]⟩]
  attributes := []
  specification := .none

def groupContent : Content :=
  [("policy", ⟨"document", "plan", "reader", .entitySet "group" "first" "member"⟩),
    ("policy", ⟨"group", "first", "member", .entitySet "group" "second" "member"⟩),
    ("policy", ⟨"group", "second", "member", .entitySet "group" "first" "member"⟩),
    ("policy", ⟨"group", "second", "member", .entity alice⟩)]

def groupEngine : PermissionEngine Unit where
  store := contentStore groupContent
  lookup := PolicyLookupTable.new.addPolicy groupPolicy

def viewRequest (subject : Did) : PermissionCheckRequest :=
  ⟨"policy", "document", "plan", "viewer", subject⟩

theorem checks_decide_cyclic_groups :
    (groupEngine.checkMany [viewRequest alice, viewRequest bob] ()).1 = [.ok true, .ok false] ∧
      Granted groupEngine.lookup groupContent "policy" alice (viewRequest alice).node ∧
        ¬ Granted groupEngine.lookup groupContent "policy" bob (viewRequest bob).node := by
  have evaluated :
      (groupEngine.checkMany [viewRequest alice, viewRequest bob] ()).1 =
        [.ok true, .ok false] := by
    decide +kernel
  have decided :=
    ((checks_decide_trail_free_meaning groupEngine groupContent
      (contentStore_serves groupContent) ()).2 [viewRequest alice, viewRequest bob]).1
  rw [evaluated] at decided
  obtain ⟨aliceDecided, bobDecided, _⟩ :
      RequestDecided groupEngine.lookup groupContent (viewRequest alice) (.ok true) ∧
        RequestDecided groupEngine.lookup groupContent (viewRequest bob) (.ok false) ∧ True := by
    simpa using decided
  refine ⟨evaluated, (aliceDecided true rfl).mp rfl, ?_⟩
  intro granted
  exact absurd ((bobDecided false rfl).mpr granted) (by decide)

end VeraHub.Zanzibar

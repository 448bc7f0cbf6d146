import VeraHub.Library.RuleOperator
import VeraHub.Zanzibar.Engine

/-!
# Trail-free meaning of the rewrite rules

A goal asks for an expression at a node.  The rules below say how one goal
follows from others over a finite store content; the decision the engine has
to make is the well-founded meaning of these rules.
-/

namespace VeraHub.Zanzibar

/-- The stored tuples, each under its policy. -/
abbrev Content : Type :=
  List (String × Relationship)

/-- An expression to be decided at a node. -/
abbrev Goal : Type :=
  NodeId × RelationExpression

section Rules

variable (lookup : PolicyLookupTable) (content : Content) (policyId : String) (subject : Did)

/-- The tuple relation of a node holds a stored subject. -/
def Stored (resource objectId relation : String) (stored : Subject) : Prop :=
  (policyId, ⟨resource, objectId, relation, stored⟩) ∈ content

/-- The goal of a declared node is among the given goals. -/
def HoldsAt (goals : Set Goal) (node : NodeId) : Prop :=
  ∃ expression,
    lookup.getExpression policyId node.resource node.relation = .ok expression ∧
      (node, expression) ∈ goals

/-- The rewrite rules: what follows in one step from the goals `positive`,
when a goal is definitely false unless it is in `negative`. -/
inductive Derives (positive negative : Set Goal) : Goal → Prop
  | direct {node : NodeId} :
      Stored content policyId node.resource node.objectId node.relation (.entity subject) →
      Derives positive negative (node, .this)
  | wildcard {node : NodeId} :
      Stored content policyId node.resource node.objectId node.relation .wildcard →
      Derives positive negative (node, .this)
  | typedWildcard {node : NodeId} {kind : String} :
      Stored content policyId node.resource node.objectId node.relation (.typedWildcard kind) →
      Derives positive negative (node, .this)
  | actorEntity {node : NodeId} {actor : String} : lookup.isActorResource policyId actor = true →
      Stored content policyId node.resource node.objectId node.relation
        (.entitySet actor subject.asStr "") →
      Derives positive negative (node, .this)
  | entitySet {node target : NodeId} : target.relation ≠ "" →
      Stored content policyId node.resource node.objectId node.relation
        (.entitySet target.resource target.objectId target.relation) →
      HoldsAt lookup policyId positive target → Derives positive negative (node, .this)
  | computedUserset {node : NodeId} {relation : String} :
      HoldsAt lookup policyId positive ⟨node.resource, node.objectId, relation⟩ →
      Derives positive negative (node, .computedUserset relation)
  | tupleWildcard {node : NodeId} {tupleRelation computedRelation : String} :
      Stored content policyId node.resource node.objectId tupleRelation .wildcard →
      Derives positive negative (node, .tupleToUserset tupleRelation computedRelation)
  | tupleTypedWildcard {node : NodeId} {tupleRelation computedRelation kind : String} :
      Stored content policyId node.resource node.objectId tupleRelation (.typedWildcard kind) →
      Derives positive negative (node, .tupleToUserset tupleRelation computedRelation)
  | tupleToUserset {node : NodeId}
      {tupleRelation computedRelation resource objectId relation : String} :
      Stored content policyId node.resource node.objectId tupleRelation
        (.entitySet resource objectId relation) →
      HoldsAt lookup policyId positive ⟨resource, objectId, computedRelation⟩ →
      Derives positive negative (node, .tupleToUserset tupleRelation computedRelation)
  | union {node : NodeId} {exprs : List RelationExpression} {expr : RelationExpression} :
      expr ∈ exprs → (node, expr) ∈ positive → Derives positive negative (node, .union exprs)
  | intersection {node : NodeId} {exprs : List RelationExpression} :
      (∀ expr ∈ exprs, (node, expr) ∈ positive) →
      Derives positive negative (node, .intersection exprs)
  | difference {node : NodeId} {base subtract : RelationExpression} : (node, base) ∈ positive →
      (node, subtract) ∉ negative → Derives positive negative (node, .difference base subtract)

variable {lookup content policyId subject} {node : NodeId}

theorem HoldsAt.mono {goals goals' : Set Goal} (included : goals ⊆ goals')
    (holds : HoldsAt lookup policyId goals node) : HoldsAt lookup policyId goals' node := by
  obtain ⟨expression, found, member⟩ := holds
  exact ⟨expression, found, included member⟩

theorem holdsAt_iff {goals : Set Goal} {expression : RelationExpression}
    (found : lookup.getExpression policyId node.resource node.relation = .ok expression) :
    HoldsAt lookup policyId goals node ↔ (node, expression) ∈ goals := by
  constructor
  · rintro ⟨other, foundOther, member⟩
    rw [found] at foundOther
    cases foundOther
    exact member
  · intro member
    exact ⟨expression, found, member⟩

variable {positive negative : Set Goal}

theorem Derives.mono {positive' negative' : Set Goal} {goal : Goal}
    (positiveIncluded : positive ⊆ positive') (negativeIncluded : negative' ⊆ negative)
    (derived : Derives lookup content policyId subject positive negative goal) :
    Derives lookup content policyId subject positive' negative' goal := by
  cases derived with
  | direct stored => exact .direct stored
  | wildcard stored => exact .wildcard stored
  | typedWildcard stored => exact .typedWildcard stored
  | actorEntity actor stored => exact .actorEntity actor stored
  | entitySet nonempty stored holds =>
    exact .entitySet nonempty stored (holds.mono positiveIncluded)
  | computedUserset holds =>
    exact .computedUserset (holds.mono positiveIncluded)
  | tupleWildcard stored => exact .tupleWildcard stored
  | tupleTypedWildcard stored => exact .tupleTypedWildcard stored
  | tupleToUserset stored holds =>
    exact .tupleToUserset stored (holds.mono positiveIncluded)
  | union listed member => exact .union listed (positiveIncluded member)
  | intersection members =>
    exact .intersection fun expr listed =>
      positiveIncluded (members expr listed)
  | difference baseMember subtractAbsent =>
    exact .difference (positiveIncluded baseMember)
      fun member => subtractAbsent (negativeIncluded member)

variable (lookup content policyId subject)

/-- The rewrite rules as an operator on sets of goals. -/
def rewriteRules : RuleOperator Goal where
  step positive negative :=
    { goal | Derives lookup content policyId subject positive negative goal }
  step_mono included _ derived := derived.mono included Set.Subset.rfl
  step_anti included _ derived := derived.mono Set.Subset.rfl included

variable {lookup content policyId subject}

theorem mem_step_iff {goal : Goal} :
    goal ∈ (rewriteRules lookup content policyId subject).step positive negative ↔
      Derives lookup content policyId subject positive negative goal :=
  Iff.rfl

/-! ## Finitely many goals carry each rule -/

variable {chain : ℕ → Set Goal}

private theorem holdsAt_iUnion (holds : HoldsAt lookup policyId (⋃ rank, chain rank) node) :
    ∃ rank, HoldsAt lookup policyId (chain rank) node := by
  obtain ⟨expression, found, member⟩ := holds
  obtain ⟨rank, reached⟩ := Set.mem_iUnion.mp member
  exact ⟨rank, expression, found, reached⟩

/-- Finitely many members of the union of a chain lie in one of its sets. -/
private theorem exists_rank_of_forall_mem (increasing : Monotone chain) (node : NodeId)
    (exprs : List RelationExpression)
    (members : ∀ expr ∈ exprs, (node, expr) ∈ ⋃ rank, chain rank) :
    ∃ rank, ∀ expr ∈ exprs, (node, expr) ∈ chain rank := by
  induction exprs with
  | nil => exact ⟨0, by simp⟩
  | cons head tail ih =>
    obtain ⟨headRank, headReached⟩ := Set.mem_iUnion.mp (members head List.mem_cons_self)
    obtain ⟨tailRank, tailReached⟩ := ih fun expr listed =>
        members expr (List.mem_cons_of_mem head listed)
    refine ⟨max headRank tailRank, fun expr listed => ?_⟩
    rcases List.mem_cons.mp listed with rfl | inTail
    · exact increasing (le_max_left _ _) headReached
    · exact increasing (le_max_right _ _) (tailReached expr inTail)

theorem rewriteRules_finitary : (rewriteRules lookup content policyId subject).Finitary := by
  intro negative chain increasing goal derived
  rw [mem_step_iff] at derived
  suffices ranked : ∃ rank, Derives lookup content policyId subject (chain rank) negative goal from
    Set.mem_iUnion.mpr ranked
  cases derived with
  | direct stored => exact ⟨0, .direct stored⟩
  | wildcard stored => exact ⟨0, .wildcard stored⟩
  | typedWildcard stored => exact ⟨0, .typedWildcard stored⟩
  | actorEntity actor stored => exact ⟨0, .actorEntity actor stored⟩
  | entitySet nonempty stored holds =>
    obtain ⟨rank, reached⟩ := holdsAt_iUnion holds
    exact ⟨rank, .entitySet nonempty stored reached⟩
  | computedUserset holds =>
    obtain ⟨rank, reached⟩ := holdsAt_iUnion holds
    exact ⟨rank, .computedUserset reached⟩
  | tupleWildcard stored => exact ⟨0, .tupleWildcard stored⟩
  | tupleTypedWildcard stored => exact ⟨0, .tupleTypedWildcard stored⟩
  | tupleToUserset stored holds =>
    obtain ⟨rank, reached⟩ := holdsAt_iUnion holds
    exact ⟨rank, .tupleToUserset stored reached⟩
  | union listed member =>
    obtain ⟨rank, reached⟩ := Set.mem_iUnion.mp member
    exact ⟨rank, .union listed reached⟩
  | intersection members =>
    obtain ⟨rank, reached⟩ := exists_rank_of_forall_mem increasing _ _ members
    exact ⟨rank, .intersection reached⟩
  | difference baseMember subtractAbsent =>
    obtain ⟨rank, reached⟩ := Set.mem_iUnion.mp baseMember
    exact ⟨rank, .difference reached subtractAbsent⟩

end Rules

/-! ## What a request means -/

section Meaning

variable (lookup : PolicyLookupTable) (content : Content)
  (policyId : String) (subject : Did) (node : NodeId)

/-- The node's expression is true in the well-founded meaning. -/
def Granted : Prop :=
  HoldsAt lookup policyId (rewriteRules lookup content policyId subject).certain node

/-- The node's expression is definitely false in the well-founded meaning. -/
def Refuted : Prop :=
  ¬ HoldsAt lookup policyId (rewriteRules lookup content policyId subject).possible node

end Meaning

/-- Every successful answer of the store is the answer of the content, in any
order; the store may fail instead. -/
structure ZanzibarStore.Serves {σ : Type} (store : ZanzibarStore σ) (content : Content) : Prop where
  checkPermissionDirect :
    ∀ policyId resource objectId relation subject state granted final,
      (store.checkPermissionDirect policyId resource objectId relation
          subject).run state = (.ok granted, final) →
        (granted = true ↔
          Stored content policyId resource objectId relation (.entity subject) ∨
            Stored content policyId resource objectId relation .wildcard ∨
              ∃ kind, Stored content policyId resource objectId relation (.typedWildcard kind))
  getRelationSubjects :
    ∀ policyId resource objectId relation state subjects final,
      (store.getRelationSubjects policyId resource objectId relation).run
          state = (.ok subjects, final) →
        ∀ stored, stored ∈ subjects ↔ Stored content policyId resource objectId relation stored
  getRelationTargets :
    ∀ policyId resource objectId relation state targets final,
      (store.getRelationTargets policyId resource objectId relation).run
          state = (.ok targets, final) →
        ∀ target : ObjectRef, target ∈ targets ↔
          ∃ edge, Stored content policyId resource objectId relation
            (.entitySet target.resource target.objectId edge)

/-! ## The store that holds exactly a content -/

section ContentStore

variable (content : Content) (policyId resource objectId relation : String)

def storedSubjects : List Subject :=
  (content.filter fun entry =>
    entry.1 = policyId ∧ entry.2.resource = resource ∧
      entry.2.objectId = objectId ∧ entry.2.relation = relation).map
    fun entry => entry.2.subject

variable {content policyId resource objectId relation}

theorem mem_storedSubjects_iff {stored : Subject} :
    stored ∈ storedSubjects content policyId resource objectId relation ↔
      Stored content policyId resource objectId relation stored := by
  unfold storedSubjects Stored
  rw [List.mem_map]
  constructor
  · rintro ⟨⟨policy, relationship⟩, listed, rfl⟩
    rw [List.mem_filter, decide_eq_true_iff] at listed
    obtain ⟨member, rfl, rfl, rfl, rfl⟩ := listed
    exact member
  · intro member
    refine ⟨_, List.mem_filter.mpr ⟨member, ?_⟩, rfl⟩
    simp

end ContentStore

def Subject.target : Subject → Option ObjectRef
  | .entitySet resource objectId _ => some ⟨resource, objectId⟩
  | _ => none

/-- A store that answers from a content and never fails. -/
def contentStore (content : Content) : ZanzibarStore Unit where
  checkPermissionDirect policyId resource objectId relation subject :=
    let subjects := storedSubjects content policyId resource objectId relation
    pure (decide (Subject.entity subject ∈ subjects) ||
      (decide (Subject.wildcard ∈ subjects) || subjects.any Subject.isTypedWildcard))
  getRelationSubjects policyId resource objectId relation :=
    pure (storedSubjects content policyId resource objectId relation)
  getRelationTargets policyId resource objectId relation :=
    pure ((storedSubjects content policyId resource objectId relation).filterMap Subject.target)

theorem isTypedWildcard_iff {stored : Subject} :
    stored.isTypedWildcard = true ↔ ∃ kind, stored = .typedWildcard kind := by
  cases stored <;> simp [Subject.isTypedWildcard]

theorem target_eq_some_iff {stored : Subject} {target : ObjectRef} :
    stored.target = some target ↔ ∃ edge, stored =
        .entitySet target.resource target.objectId edge := by
  cases stored with
  | entitySet resource objectId relation =>
    constructor
    · intro found
      cases found
      exact ⟨relation, rfl⟩
    · rintro ⟨edge, equality⟩
      cases equality
      rfl
  | entity did => simp [Subject.target]
  | typedWildcard resource => simp [Subject.target]
  | wildcard => simp [Subject.target]

theorem contentStore_serves (content : Content) : (contentStore content).Serves content where
  checkPermissionDirect := by
    intro policyId resource objectId relation subject state granted final answered
    cases answered
    rw [Bool.or_eq_true, Bool.or_eq_true, decide_eq_true_iff,
      decide_eq_true_iff, mem_storedSubjects_iff, mem_storedSubjects_iff, List.any_eq_true]
    refine or_congr_right (or_congr_right ⟨?_, ?_⟩)
    · rintro ⟨stored, listed, typed⟩
      obtain ⟨kind, rfl⟩ := isTypedWildcard_iff.mp typed
      exact ⟨kind, mem_storedSubjects_iff.mp listed⟩
    · rintro ⟨kind, stored⟩
      exact ⟨_, mem_storedSubjects_iff.mpr stored, rfl⟩
  getRelationSubjects := by
    intro policyId resource objectId relation state subjects final answered stored
    cases answered
    exact mem_storedSubjects_iff
  getRelationTargets := by
    intro policyId resource objectId relation state targets final answered target
    cases answered
    rw [List.mem_filterMap]
    constructor
    · rintro ⟨stored, listed, found⟩
      obtain ⟨edge, rfl⟩ := target_eq_some_iff.mp found
      exact ⟨edge, mem_storedSubjects_iff.mp listed⟩
    · rintro ⟨edge, stored⟩
      exact ⟨_, mem_storedSubjects_iff.mpr stored, rfl⟩

end VeraHub.Zanzibar

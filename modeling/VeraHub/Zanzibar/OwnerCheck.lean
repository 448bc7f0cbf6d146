import VeraHub.Zanzibar.Decision
import VeraHub.Zanzibar.Expression

/-!
# The ownership check of policies

A policy can be asked to include the owner in every permission.  The check
scans the text of each expression.  It is right about unions and intersections
of relations, but it also counts an owner that is subtracted, or one that is
reached on another object.
-/

namespace VeraHub.Zanzibar

/-! ## The check -/

def RelationExpression.isThis : RelationExpression → Bool
  | .this => true
  | _ => false

namespace Policy

def expressionIncludesOwner : RelationExpression → Bool
  | .this => false
  | .computedUserset relation => relation = "owner"
  | .tupleToUserset _ computedRelation => computedRelation = "owner"
  | .union exprs => anyIncludesOwner exprs
  | .intersection exprs => allIncludeOwner exprs
  | .difference base subtract =>
    expressionIncludesOwner base || expressionIncludesOwner subtract
where
  anyIncludesOwner : List RelationExpression → Bool
    | [] => false
    | expression :: rest =>
      expressionIncludesOwner expression || anyIncludesOwner rest
  allIncludeOwner : List RelationExpression → Bool
    | [] => true
    | expression :: rest =>
      expressionIncludesOwner expression && allIncludeOwner rest

end Policy

/-! ## Expressions without arrows and exclusions -/

namespace RelationExpression

/-- Unions and intersections of the tuples and relations of one object. -/
def isPlain : RelationExpression → Bool
  | .this => true
  | .computedUserset _ => true
  | .tupleToUserset _ _ => false
  | .union exprs => allPlain exprs
  | .intersection exprs => allPlain exprs
  | .difference _ _ => false
where
  allPlain : List RelationExpression → Bool
    | [] => true
    | expression :: rest => isPlain expression && allPlain rest

end RelationExpression

section Plain

variable {lookup : PolicyLookupTable} {content : Content} {policyId : String}
  {subject : Did} {node : NodeId}

theorem mem_certain_of_derives {goal : Goal}
    (derived : Derives lookup content policyId subject
      (rewriteRules lookup content policyId subject).certain
      (rewriteRules lookup content policyId subject).possible goal) :
    goal ∈ (rewriteRules lookup content policyId subject).certain :=
  (RuleOperator.mem_certain_iff _ goal).mpr derived

theorem holdsAt_owner (direct : lookup.getExpression policyId node.resource "owner" = .ok .this)
    (owned : Stored content policyId node.resource node.objectId "owner" (.entity subject)) :
    HoldsAt lookup policyId (rewriteRules lookup content policyId subject).certain
      ⟨node.resource, node.objectId, "owner"⟩ := by
  refine ⟨.this, direct, mem_certain_of_derives ?_⟩
  exact .direct owned

open RelationExpression Policy.expressionIncludesOwner in
mutual

theorem certain_of_includesOwner
    (holds : HoldsAt lookup policyId (rewriteRules lookup content policyId subject).certain
      ⟨node.resource, node.objectId, "owner"⟩) :
    ∀ expression, expression.isPlain = true →
      Policy.expressionIncludesOwner expression = true →
        (node, expression) ∈ (rewriteRules lookup content policyId subject).certain
  | .this, _, included => by
      simp [Policy.expressionIncludesOwner] at included
  | .computedUserset relation, _, included => by
      have named : relation = "owner" := by
        simpa [Policy.expressionIncludesOwner] using included
      rw [named]
      exact mem_certain_of_derives (.computedUserset holds)
  | .tupleToUserset _ _, plain, _ => by
      simp [isPlain] at plain
  | .union exprs, plain, included => by
      obtain ⟨expression, member, certain⟩ := exists_certain_of_anyIncludes
        holds exprs (by simpa [isPlain] using plain)
        (by simpa [Policy.expressionIncludesOwner] using included)
      exact mem_certain_of_derives (.union member certain)
  | .intersection exprs, plain, included => by
      exact mem_certain_of_derives (.intersection
        (forall_certain_of_allInclude holds exprs (by simpa [isPlain] using plain)
          (by simpa [Policy.expressionIncludesOwner] using included)))
  | .difference _ _, plain, _ => by
      simp [isPlain] at plain

theorem exists_certain_of_anyIncludes
    (holds : HoldsAt lookup policyId (rewriteRules lookup content policyId subject).certain
      ⟨node.resource, node.objectId, "owner"⟩) :
    ∀ exprs, isPlain.allPlain exprs = true → anyIncludesOwner exprs = true →
      ∃ expression ∈ exprs, (node, expression) ∈
        (rewriteRules lookup content policyId subject).certain
  | [], _, included => by
      simp [anyIncludesOwner] at included
  | expression :: rest, plain, included => by
      rw [isPlain.allPlain, Bool.and_eq_true] at plain
      rw [anyIncludesOwner, Bool.or_eq_true] at included
      rcases included with here | later
      · exact ⟨expression, List.mem_cons_self,
          certain_of_includesOwner holds expression plain.1 here⟩
      · obtain ⟨other, member, certain⟩ := exists_certain_of_anyIncludes holds rest plain.2 later
        exact ⟨other, List.mem_cons_of_mem expression member, certain⟩

theorem forall_certain_of_allInclude
    (holds : HoldsAt lookup policyId (rewriteRules lookup content policyId subject).certain
      ⟨node.resource, node.objectId, "owner"⟩) :
    ∀ exprs, isPlain.allPlain exprs = true → allIncludeOwner exprs = true →
      ∀ expression ∈ exprs, (node, expression) ∈
        (rewriteRules lookup content policyId subject).certain
  | [], _, _ => by
      intro expression member
      cases member
  | first :: rest, plain, included => by
      rw [isPlain.allPlain, Bool.and_eq_true] at plain
      rw [allIncludeOwner, Bool.and_eq_true] at included
      intro expression member
      rcases List.mem_cons.mp member with isFirst | inRest
      · rw [isFirst]
        exact certain_of_includesOwner holds first plain.1 included.1
      · exact forall_certain_of_allInclude holds rest plain.2 included.2 expression inRest

end

end Plain

/-! ## What the check guarantees -/

section Guarantee

def policyEngine (policy : Policy) (content : Content) : PermissionEngine Unit where
  store := contentStore content
  lookup := PolicyLookupTable.new.addPolicy policy

variable {policy : Policy}

end Guarantee

/-! ### A permission for readers who are not the owner -/

end VeraHub.Zanzibar

import VeraHub.Zanzibar.Meaning

/-!
# Verdicts of the engine and soundness of its cache

Three facts are carried about a decision under a trail.  A grant is certain.
An untainted denial is definitely false.  Any denial is explained by the trail:
a derivation of some rank would pass through a node of the trail that is
derivable at a rank no larger.
-/

namespace VeraHub.Zanzibar

section Verdicts

variable (lookup : PolicyLookupTable) (content : Content) (policyId : String) (subject : Did)

/-- A statement about the goals that hold and the goals that may hold. -/
abbrev Condition : Type :=
  Set Goal → Set Goal → Prop

/-- The rule of an expression at a node applies. -/
abbrev Rule (node : NodeId) (expression : RelationExpression) : Condition :=
  fun positive negative =>
    Derives lookup content policyId subject positive negative (node, expression)

/-- A node has the relation it names. -/
abbrev Reached (node : NodeId) : Condition :=
  fun positive _ => HoldsAt lookup policyId positive node

/-- The goals derivable at a rank, against the possible goals. -/
def derivable (rank : ℕ) : Set Goal :=
  let rules := rewriteRules lookup content policyId subject
  rules.stage rules.possible rank

/-- What a decision says about a condition under a trail. -/
structure Verdict (trail : NodeTrail) (condition : Condition) (decision : Eval) : Prop where
  granted :
    decision.1 = true →
      condition (rewriteRules lookup content policyId subject).certain
        (rewriteRules lookup content policyId subject).possible
  refuted :
    decision = (false, false) →
      ¬ condition (rewriteRules lookup content policyId subject).possible
        (rewriteRules lookup content policyId subject).certain
  explained :
    decision.1 = false →
      ∀ rank,
        condition (derivable lookup content policyId subject rank)
            (rewriteRules lookup content policyId subject).possible →
          ∃ node ∈ trail,
            HoldsAt lookup policyId (derivable lookup content policyId subject rank) node

variable {lookup content policyId subject}

theorem derivable_mono :
    Monotone (derivable lookup content policyId subject) :=
  RuleOperator.stage_mono _ _

theorem derivable_subset_certain (rank : ℕ) :
    derivable lookup content policyId subject rank ⊆
      (rewriteRules lookup content policyId subject).certain :=
  RuleOperator.stage_subset_certain _ rank

theorem mem_derivable_succ_iff {rank : ℕ} {goal : Goal} :
    goal ∈ derivable lookup content policyId subject (rank + 1) ↔
      Derives lookup content policyId subject (derivable lookup content policyId subject rank)
        (rewriteRules lookup content policyId subject).possible goal :=
  Iff.rfl

theorem not_mem_derivable_zero {goal : Goal} : goal ∉ derivable lookup content policyId subject 0 :=
  Set.notMem_empty goal

namespace Verdict

variable {trail : NodeTrail} {condition condition' : Condition} {decision : Eval}

theorem congr
    (equivalent : ∀ positive negative, condition positive negative ↔ condition' positive negative)
    (verdict : Verdict lookup content policyId subject trail condition decision) :
    Verdict lookup content policyId subject trail condition' decision where
  granted grant := (equivalent _ _).mp (verdict.granted grant)
  refuted denial := fun holds =>
    verdict.refuted denial ((equivalent _ _).mpr holds)
  explained denial rank holds := verdict.explained denial rank ((equivalent _ _).mpr holds)

theorem grant
    (holds :
      condition (rewriteRules lookup content policyId subject).certain
        (rewriteRules lookup content policyId subject).possible)
    (tainted : Bool) : Verdict lookup content policyId subject trail condition (true, tainted) where
  granted _ := holds
  refuted denial := by simp at denial
  explained denial := by simp at denial

theorem deny (impossible : ∀ positive negative, ¬ condition positive negative) (tainted : Bool) :
    Verdict lookup content policyId subject trail condition (false, tainted) where
  granted denied := by simp at denied
  refuted _ := impossible _ _
  explained _ _ holds := absurd holds (impossible _ _)

variable {expression : RelationExpression} {node : NodeId}

theorem ofDerives
    (verdict : Verdict lookup content policyId subject trail
      (Rule lookup content policyId subject node expression) decision) :
    Verdict lookup content policyId subject trail
      (fun positive _ => (node, expression) ∈ positive) decision where
  granted grant := (RuleOperator.mem_certain_iff _ _).mpr (verdict.granted grant)
  refuted denial := fun possible =>
    verdict.refuted denial ((RuleOperator.mem_possible_iff _ _).mp possible)
  explained denial rank derived := by
    cases rank with
    | zero => exact absurd derived not_mem_derivable_zero
    | succ rank =>
      obtain ⟨node, onTrail, holds⟩ :=
        verdict.explained denial rank (mem_derivable_succ_iff.mp derived)
      exact ⟨node, onTrail, holds.mono (derivable_mono (Nat.le_succ rank))⟩

/-- A node of the trail explains its own denial. -/
theorem onTrail (onTrail : node ∈ trail) :
    Verdict lookup content policyId subject trail (Reached lookup policyId node) (false, true) where
  granted denied := by simp at denied
  refuted denial := by simp at denial
  explained _ _ holds := ⟨node, onTrail, holds⟩

/-- Leaving a node: its own place on the trail explains no denial, because a
derivation of least rank never passes through the node again. -/
theorem leaveNode
    (found : lookup.getExpression policyId node.resource node.relation = .ok expression)
    (verdict : Verdict lookup content policyId subject (node :: trail)
      (Rule lookup content policyId subject node expression) decision) :
    Verdict lookup content policyId subject trail (Reached lookup policyId node) decision where
  granted grant := (holdsAt_iff found).mpr (verdict.ofDerives.granted grant)
  refuted denial := fun possible =>
    verdict.ofDerives.refuted denial ((holdsAt_iff found).mp possible)
  explained denial rank reached := by
    have holds := (holdsAt_iff found).mp reached
    classical
    have ranked : ∃ least, (node, expression) ∈
          derivable lookup content policyId subject least :=
      ⟨rank, holds⟩
    have leastReached := Nat.find_spec ranked
    have leastLe : Nat.find ranked ≤ rank := Nat.find_min' ranked holds
    match least : Nat.find ranked with
    | 0 =>
      rw [least] at leastReached
      exact absurd leastReached not_mem_derivable_zero
    | earlier + 1 =>
      rw [least] at leastReached leastLe
      obtain ⟨passed, onTrail, passedHolds⟩ :=
        verdict.explained denial earlier (mem_derivable_succ_iff.mp leastReached)
      rcases List.mem_cons.mp onTrail with rfl | onTrail
      · rw [holdsAt_iff found] at passedHolds
        exact absurd passedHolds (Nat.find_min ranked (by omega))
      · exact ⟨passed, onTrail, passedHolds.mono (derivable_mono (by omega))⟩

end Verdict

end Verdicts

/-! ## The cache -/

section Cache

variable {σ : Type}

/-- A cached value is the trail-free value of its node. -/
def EntrySound (lookup : PolicyLookupTable) (content : Content) (entry : CheckKey × Bool) : Prop :=
  (entry.2 = true → Granted lookup content entry.1.policyId entry.1.subject entry.1.node) ∧
    (entry.2 = false → Refuted lookup content entry.1.policyId entry.1.subject entry.1.node)

def CacheSound (lookup : PolicyLookupTable) (content : Content) (cache : CheckCache σ) : Prop :=
  ∀ entry ∈ cache.results, EntrySound lookup content entry

variable {lookup : PolicyLookupTable} {content : Content} {cache : CheckCache σ}

theorem cacheSound_new (store : σ) :
    CacheSound lookup content (CheckCache.new store) := by
  intro entry listed
  cases listed

theorem CacheSound.set (sound : CacheSound lookup content cache) {key : CheckKey} {value : Bool}
    (entrySound : EntrySound lookup content (key, value)) :
    CacheSound lookup content (cache.set key value) := by
  intro entry listed
  rcases List.mem_cons.mp listed with rfl | listed
  · exact entrySound
  · exact sound entry listed

theorem CacheSound.get (sound : CacheSound lookup content cache) {key : CheckKey} {value : Bool}
    (found : cache.get key = some value) :
    EntrySound lookup content (key, value) := by
  obtain ⟨newer, older, split, _⟩ := List.lookup_eq_some_iff.mp found
  apply sound (key, value)
  rw [split]
  exact List.mem_append_right newer List.mem_cons_self

end Cache

end VeraHub.Zanzibar

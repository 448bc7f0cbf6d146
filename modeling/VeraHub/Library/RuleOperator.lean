import Mathlib

/-!
# Well-founded meaning of rules with negation

A rule operator maps a set of atoms already derived, and a set against which
negated atoms are tested, to the atoms derivable in one step.  It is monotone
in the first argument and antitone in the second.

Fixing the negated side gives an ordinary least fixpoint.  Alternating two such
fixpoints gives the well-founded meaning: an atom is `certain` when it is
derivable although every possible atom counts against it, `possible` when it is
derivable although only certain atoms count against it, and refuted when it is
not possible.
-/

namespace VeraHub

universe u

/-- One-step consequences of a set of rules with negation. -/
structure RuleOperator (Atom : Type u) where
  step : Set Atom → Set Atom → Set Atom
  step_mono :
    ∀ {positive positive' negative : Set Atom},
      positive ⊆ positive' → step positive negative ⊆ step positive' negative
  step_anti :
    ∀ {positive negative negative' : Set Atom},
      negative ⊆ negative' → step positive negative' ⊆ step positive negative

namespace RuleOperator

variable {Atom : Type u} (rules : RuleOperator Atom)

/-- One derivation step with the negated atoms read from a fixed set. -/
def stepAgainst (negative : Set Atom) : Set Atom →o Set Atom where
  toFun positive := rules.step positive negative
  monotone' _ _ included := rules.step_mono included

/-- Everything derivable with the negated atoms read from a fixed set. -/
def consequences (negative : Set Atom) : Set Atom :=
  (rules.stepAgainst negative).lfp

theorem step_consequences (negative : Set Atom) :
    rules.step (rules.consequences negative) negative =
      rules.consequences negative :=
  (rules.stepAgainst negative).map_lfp

variable {negative : Set Atom}

theorem consequences_anti {negative' : Set Atom} (included : negative ⊆ negative') :
    rules.consequences negative' ⊆ rules.consequences negative := by
  apply (rules.stepAgainst negative').lfp_le
  intro atom derived
  rw [← rules.step_consequences negative]
  exact rules.step_anti included derived

/-- Two alternations of the antitone consequence operator. -/
def alternate : Set Atom →o Set Atom where
  toFun certain := rules.consequences (rules.consequences certain)
  monotone' _ _ included := rules.consequences_anti (rules.consequences_anti included)

/-- The atoms that are true in the well-founded meaning. -/
def certain : Set Atom :=
  rules.alternate.lfp

/-- The atoms that are not false in the well-founded meaning. -/
def possible : Set Atom :=
  rules.consequences rules.certain

theorem consequences_possible : rules.consequences rules.possible = rules.certain :=
  rules.alternate.map_lfp

/-- A true atom is never refuted: the possible atoms are a fixpoint of the
alternation, and the certain atoms are its least one. -/
theorem certain_subset_possible : rules.certain ⊆ rules.possible := by
  apply rules.alternate.lfp_le
  change rules.consequences (rules.consequences rules.possible) ⊆ rules.possible
  rw [rules.consequences_possible]
  exact Set.Subset.rfl

theorem mem_certain_iff (atom : Atom) :
    atom ∈ rules.certain ↔ atom ∈ rules.step rules.certain rules.possible := by
  have unfolded := rules.step_consequences rules.possible
  rw [rules.consequences_possible] at unfolded
  rw [unfolded]

theorem mem_possible_iff (atom : Atom) :
    atom ∈ rules.possible ↔ atom ∈ rules.step rules.possible rules.certain := by
  have unfolded := rules.step_consequences rules.certain
  change rules.step rules.possible rules.certain = rules.possible at unfolded
  rw [unfolded]

/-! ## Derivation ranks -/

/-- The atoms derivable in at most the given number of steps. -/
def stage (negative : Set Atom) : ℕ → Set Atom
  | 0 => ∅
  | rank + 1 => rules.step (stage negative rank) negative

/-- Every step uses only finitely many derived atoms. -/
def Finitary : Prop :=
  ∀ (negative : Set Atom) (chain : ℕ → Set Atom),
    Monotone chain →
      rules.step (⋃ rank, chain rank) negative ⊆ ⋃ rank, rules.step (chain rank) negative

theorem stage_subset_succ (negative : Set Atom) (rank : ℕ) :
    rules.stage negative rank ⊆ rules.stage negative (rank + 1) := by
  induction rank with
  | zero =>
    exact Set.empty_subset _
  | succ rank ih =>
    exact rules.step_mono ih

theorem stage_mono (negative : Set Atom) :
    Monotone (rules.stage negative) :=
  monotone_nat_of_le_succ (rules.stage_subset_succ negative)

theorem stage_subset_consequences (negative : Set Atom) (rank : ℕ) :
    rules.stage negative rank ⊆ rules.consequences negative := by
  induction rank with
  | zero =>
    exact Set.empty_subset _
  | succ rank ih =>
    rw [← rules.step_consequences negative]
    exact rules.step_mono ih

theorem exists_stage_of_mem_consequences (finitary : rules.Finitary) {atom : Atom}
    (derived : atom ∈ rules.consequences negative) : ∃ rank, atom ∈ rules.stage negative rank := by
  have included : rules.consequences negative ⊆ ⋃ rank, rules.stage negative rank := by
    apply (rules.stepAgainst negative).lfp_le
    intro candidate stepped
    obtain ⟨rank, reached⟩ :=
      Set.mem_iUnion.mp (finitary negative _ (rules.stage_mono negative) stepped)
    exact Set.mem_iUnion.mpr ⟨rank + 1, reached⟩
  exact Set.mem_iUnion.mp (included derived)

/-- A certain atom has a least derivation rank against the possible atoms. -/
theorem exists_least_stage_of_mem_certain (finitary : rules.Finitary)
    {atom : Atom} (holds : atom ∈ rules.certain) :
    ∃ rank,
      atom ∈ rules.stage rules.possible rank ∧
        ∀ earlier, earlier < rank → atom ∉ rules.stage rules.possible earlier := by
  classical
  rw [← rules.consequences_possible] at holds
  have ranked := rules.exists_stage_of_mem_consequences finitary holds
  exact ⟨Nat.find ranked, Nat.find_spec ranked, fun _ below => Nat.find_min ranked below⟩

theorem stage_subset_certain (rank : ℕ) : rules.stage rules.possible rank ⊆ rules.certain := by
  rw [← rules.consequences_possible]
  exact rules.stage_subset_consequences rules.possible rank

end RuleOperator

end VeraHub

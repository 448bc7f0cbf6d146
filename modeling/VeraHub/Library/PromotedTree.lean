import Mathlib

/-!
# Binary trees over a list, with promoted nodes

A list of values is combined in pairs, level by level, up to one root.  A last
value without a partner is promoted to the next level unchanged.  The root is
the digest of a binary tree with these leaves, and a path of siblings from some
value up to the root passes through this tree if no two different pairs are
combined to one value.
-/

namespace VeraHub

/-- A binary tree with values at its leaves. -/
inductive HashTree (α : Type) where
  | leaf (value : α)
  | node (left right : HashTree α)

/-- A sibling on a path to the root, and the side on which it stands. -/
inductive PathStep (α : Type) where
  | onLeft (sibling : α)
  | onRight (sibling : α)

section PromotedTree

variable {α β : Type} (combine : α → α → α)

/-! ## Levels -/

def pairUp : List α → List α
  | [] => []
  | [last] => [last]
  | first :: second :: rest => combine first second :: pairUp rest

def levelPairs : List α → List (α × α)
  | first :: second :: rest => (first, second) :: levelPairs rest
  | _ => []

/-- The levels from the leaves to the root, for at most this many rounds. -/
def promotedLevels : Nat → List α → List (List α)
  | 0, level => [level]
  | rounds + 1, level =>
    if level.length ≤ 1 then [level]
    else level :: promotedLevels rounds (pairUp combine level)

def rootOf (levels : List (List α)) : Option α :=
  levels.getLast?.bind List.head?

theorem length_pairUp (level : List α) :
    (pairUp combine level).length = (level.length + 1) / 2 := by
  fun_induction pairUp combine level with
  | case1 => simp
  | case2 last => simp
  | case3 first second rest ih =>
    simp only [List.length_cons, ih]
    omega

theorem getElem?_pairUp_both {level : List α} {position : Nat} {left right : α}
    (first : level[2 * position]? = some left) (second : level[2 * position + 1]? = some right) :
    (pairUp combine level)[position]? = some (combine left right) := by
  induction position generalizing level with
  | zero =>
    match level, first, second with
    | _ :: _ :: _, first, second =>
      cases first
      cases second
      rfl
  | succ position ih =>
    match level, first, second with
    | _ :: _ :: rest, first, second =>
      exact @ih rest first second

theorem getElem?_pairUp_last {level : List α} {position : Nat} {value : α}
    (found : level[2 * position]? = some value) (last : level[2 * position + 1]? = none) :
    (pairUp combine level)[position]? = some value := by
  induction position generalizing level with
  | zero =>
    match level, found, last with
    | [_], found, _ => exact found
  | succ position ih =>
    match level, found, last with
    | _ :: _ :: rest, found, last =>
      exact @ih rest found last

theorem promotedLevels_ne_nil (rounds : Nat) (level : List α) :
    promotedLevels combine rounds level ≠ [] := by
  cases rounds with
  | zero => exact List.cons_ne_nil _ _
  | succ rounds =>
    rw [promotedLevels]
    split <;> exact List.cons_ne_nil _ _

theorem promotedLevels_narrow {level : List α} (rounds : Nat) (narrow : level.length ≤ 1) :
    promotedLevels combine rounds level = [level] := by
  cases rounds with
  | zero => rfl
  | succ rounds => rw [promotedLevels, if_pos narrow]

theorem promotedLevels_wide {level : List α} (rounds : Nat) (wide : ¬ level.length ≤ 1) :
    promotedLevels combine (rounds + 1) level =
      level :: promotedLevels combine rounds (pairUp combine level) := by
  rw [promotedLevels, if_neg wide]

/-- What holds of the values of the first level and of every combination holds
at every level. -/
theorem forall_promotedLevels {Valid : α → Prop}
    (closed : ∀ left right, Valid (combine left right)) (rounds : Nat)
    {level : List α} (valid : ∀ value ∈ level, Valid value) :
    ∀ reached ∈ promotedLevels combine rounds level, ∀ value ∈ reached, Valid value := by
  have next : ∀ {level : List α}, (∀ value ∈ level, Valid value) →
      ∀ value ∈ pairUp combine level, Valid value := by
    intro level valid value member
    fun_induction pairUp combine level with
    | case1 => exact valid value member
    | case2 last => exact valid value member
    | case3 first second rest ih =>
      rcases List.mem_cons.mp member with rfl | member
      · exact closed first second
      · apply ih _ member
        intro value member
        exact valid value (by simp [member])
  induction rounds generalizing level with
  | zero =>
    intro reached member
    rw [List.mem_singleton.mp member]
    exact valid
  | succ rounds ih =>
    intro reached member
    rw [promotedLevels] at member
    split at member
    · rw [List.mem_singleton.mp member]
      exact valid
    · rcases List.mem_cons.mp member with rfl | member
      · exact valid
      · exact ih (next valid) reached member

theorem length_promotedLevels_le {rounds : Nat} (fuel : Nat) {level : List α}
    (halving : level.length ≤ 2 ^ rounds) :
    (promotedLevels combine fuel level).length ≤ rounds + 1 := by
  induction fuel generalizing rounds level with
  | zero => simp [promotedLevels]
  | succ fuel ih =>
    by_cases narrow : level.length ≤ 1
    · simp [promotedLevels_narrow combine _ narrow]
    · cases rounds with
      | zero => exact (narrow halving).elim
      | succ rounds =>
        have half : (pairUp combine level).length ≤ 2 ^ rounds := by
          rw [length_pairUp]
          rw [Nat.pow_succ] at halving
          omega
        rw [promotedLevels_wide combine _ narrow, List.length_cons]
        have bounded := ih half
        omega

variable {levels : List (List α)}

theorem rootOf_cons (level : List α) (nonempty : levels ≠ []) :
    rootOf (level :: levels) = rootOf levels := by
  unfold rootOf
  rw [List.getLast?_cons_of_ne_nil nonempty]

theorem mem_of_rootOf {root : α} (found : rootOf levels = some root) :
    ∃ level ∈ levels, root ∈ level := by
  obtain ⟨level, last, first⟩ := Option.bind_eq_some_iff.mp found
  exact ⟨level, List.mem_of_getLast? last, List.mem_of_head? first⟩

/-! ## Homomorphisms -/

section Homomorphism

variable {combine} {merge : β → β → β} {f : α → β}

theorem map_pairUp (hom : ∀ left right,
      f (combine left right) = merge (f left) (f right)) (level : List α) :
    (pairUp combine level).map f = pairUp merge (level.map f) := by
  fun_induction pairUp combine level with
  | case1 => rfl
  | case2 last => rfl
  | case3 first second rest ih =>
    simp only [List.map_cons, pairUp, hom, ih]

theorem map_promotedLevels (hom : ∀ left right,
      f (combine left right) = merge (f left) (f right)) (rounds : Nat) (level : List α) :
    (promotedLevels combine rounds level).map (List.map f) =
      promotedLevels merge rounds (level.map f) := by
  induction rounds generalizing level with
  | zero => rfl
  | succ rounds ih =>
    by_cases narrow : level.length ≤ 1
    · have mapped : (level.map f).length ≤ 1 := by
        rwa [List.length_map]
      rw [promotedLevels_narrow combine _ narrow, promotedLevels_narrow merge _ mapped]
      rfl
    · have mapped : ¬ (level.map f).length ≤ 1 := by
        rwa [List.length_map]
      rw [promotedLevels_wide combine _ narrow, promotedLevels_wide merge _ mapped, List.map_cons,
        ih, map_pairUp hom]

end Homomorphism

/-! ## The tree of a root -/

namespace HashTree

def digest : HashTree α → α
  | leaf value => value
  | node left right => combine left.digest right.digest

def leaves : HashTree α → List α
  | leaf value => [value]
  | node left right => left.leaves ++ right.leaves

def pairs : HashTree α → List (α × α)
  | leaf _ => []
  | node left right =>
    (left.digest combine, right.digest combine) :: (left.pairs ++ right.pairs)

theorem flatMap_leaves_pairUp (trees : List (HashTree α)) :
    (pairUp node trees).flatMap leaves = trees.flatMap leaves := by
  fun_induction pairUp node trees with
  | case1 => rfl
  | case2 last => rfl
  | case3 first second rest ih =>
    simp only [List.flatMap_cons, leaves, ih, List.append_assoc]

variable {trees : List (HashTree α)}

theorem mem_pairs_of_pairUp {tree : HashTree α} {pair : α × α} (member : tree ∈ pairUp node trees)
    (found : pair ∈ tree.pairs combine) :
    pair ∈ levelPairs (trees.map (digest combine)) ∨
      ∃ earlier ∈ trees, pair ∈ earlier.pairs combine := by
  fun_induction pairUp node trees with
  | case1 => exact (nomatch member)
  | case2 last => exact .inr ⟨tree, member, found⟩
  | case3 first second rest ih =>
    rcases List.mem_cons.mp member with rfl | member
    · rw [pairs, List.mem_cons, List.mem_append] at found
      rcases found with rfl | found | found
      · exact .inl (List.mem_cons_self ..)
      · exact .inr ⟨first, List.mem_cons_self .., found⟩
      · exact .inr ⟨second, by simp, found⟩
    · rcases ih member with here | ⟨earlier, stands, kept⟩
      · exact .inl (List.mem_cons_of_mem _ here)
      · exact .inr ⟨earlier, by simp [stands], kept⟩

theorem mem_pairs_of_promotedLevels {rounds : Nat} {last : List (HashTree α)} {tree : HashTree α}
    {pair : α × α} (ends : (promotedLevels node rounds trees).getLast? = some last)
    (member : tree ∈ last) (found : pair ∈ tree.pairs combine) :
    (∃ level ∈ promotedLevels combine rounds (trees.map (digest combine)),
        pair ∈ levelPairs level) ∨ ∃ earlier ∈ trees, pair ∈ earlier.pairs combine := by
  have hom : ∀ left right : HashTree α, digest combine (node left right) =
      combine (digest combine left) (digest combine right) :=
    fun _ _ => rfl
  induction rounds generalizing trees with
  | zero =>
    cases ends
    exact .inr ⟨tree, member, found⟩
  | succ rounds ih =>
    by_cases narrow : trees.length ≤ 1
    · rw [promotedLevels_narrow node _ narrow] at ends
      cases ends
      exact .inr ⟨tree, member, found⟩
    · rw [promotedLevels_wide node _ narrow, List.getLast?_cons_of_ne_nil
        (promotedLevels_ne_nil node _ _)] at ends
      have wide : ¬ (trees.map (digest combine)).length ≤ 1 := by
        rwa [List.length_map]
      rw [promotedLevels_wide combine _ wide, ← map_pairUp hom]
      rcases ih ends with
        ⟨level, stands, kept⟩ | ⟨earlier, stands, kept⟩
      · exact .inl ⟨level, List.mem_cons_of_mem _ stands, kept⟩
      · rcases mem_pairs_of_pairUp combine stands kept with
          here | ⟨former, stood, kept⟩
        · exact .inl ⟨_, List.mem_cons_self .., here⟩
        · exact .inr ⟨former, stood, kept⟩

theorem getLast?_promotedLevels {rounds : Nat} {trees : List (HashTree α)}
    (nonempty : trees ≠ []) (enough : trees.length ≤ rounds + 1) :
    ∃ tree, (promotedLevels node rounds trees).getLast? = some [tree] ∧
      tree.leaves = trees.flatMap leaves := by
  have single : ∀ {level : List (HashTree α)}, level ≠ [] →
      level.length ≤ 1 → ∃ tree, level = [tree] ∧ tree.leaves = level.flatMap leaves := by
    intro level present narrow
    match level, present, narrow with
    | [tree], _, _ => exact ⟨tree, rfl, by simp⟩
  induction rounds generalizing trees with
  | zero =>
    obtain ⟨tree, rfl, leaves⟩ := single nonempty enough
    exact ⟨tree, rfl, leaves⟩
  | succ rounds ih =>
    by_cases narrow : trees.length ≤ 1
    · obtain ⟨tree, rfl, leaves⟩ := single nonempty narrow
      exact ⟨tree, rfl, leaves⟩
    · have half : (pairUp node trees).length = (trees.length + 1) / 2 := length_pairUp node trees
      have present : pairUp node trees ≠ [] := by
        intro empty
        rw [empty, List.length_nil] at half
        omega
      obtain ⟨tree, ends, leaves⟩ := ih present (by omega)
      refine ⟨tree, ?_, leaves.trans (flatMap_leaves_pairUp trees)⟩
      rw [promotedLevels_wide node _ narrow, List.getLast?_cons_of_ne_nil
        (promotedLevels_ne_nil node _ _), ends]

theorem exists_of_rootOf {rounds : Nat} {values : List α} {root : α}
    (nonempty : values ≠ []) (enough : values.length ≤ rounds + 1)
    (found : rootOf (promotedLevels combine rounds values) = some root) :
    ∃ tree : HashTree α, tree.digest combine = root ∧ tree.leaves = values ∧
      ∀ pair ∈ tree.pairs combine,
        ∃ level ∈ promotedLevels combine rounds values, pair ∈ levelPairs level := by
  have hom : ∀ left right : HashTree α, digest combine (node left right) =
      combine (digest combine left) (digest combine right) :=
    fun _ _ => rfl
  have digests : (values.map leaf).map (digest combine) = values := by
    rw [List.map_map]
    exact List.map_id values
  have leafPairs : ∀ pair, ¬ ∃ earlier ∈ values.map leaf, pair ∈ earlier.pairs combine := by
    rintro pair ⟨earlier, member, kept⟩
    obtain ⟨value, _, rfl⟩ := List.mem_map.mp member
    exact (nomatch kept)
  have present : values.map leaf ≠ [] := by
    intro empty
    exact nonempty (List.map_eq_nil_iff.mp empty)
  obtain ⟨tree, ends, leaves⟩ := @getLast?_promotedLevels _ rounds _ present
    (by rwa [List.length_map])
  refine ⟨tree, ?_, ?_, ?_⟩
  · rw [← digests, ← map_promotedLevels hom] at found
    unfold rootOf at found
    rw [List.getLast?_map, ends] at found
    exact Option.some.inj found
  · rw [leaves, List.flatMap_map]
    exact List.flatMap_singleton' values
  · intro pair kept
    have placed := mem_pairs_of_promotedLevels combine ends (List.mem_singleton.mpr rfl) kept
    rw [digests] at placed
    exact placed.resolve_right (leafPairs pair)

end HashTree

/-! ## Paths -/

namespace PathStep

def sibling : PathStep α → α
  | onLeft sibling => sibling
  | onRight sibling => sibling

def pair (current : α) : PathStep α → α × α
  | onLeft sibling => (sibling, current)
  | onRight sibling => (current, sibling)

/-- Combine with the siblings of a path, one after the other. -/
def climb (start : α) (steps : List (PathStep α)) : α :=
  steps.foldl (fun current step =>
    combine (step.pair current).1 (step.pair current).2) start

theorem climb_append (start : α) (steps : List (PathStep α)) (step : PathStep α) :
    climb combine start (steps ++ [step]) =
      combine (step.pair (climb combine start steps)).1
        (step.pair (climb combine start steps)).2 := by
  unfold climb
  rw [List.foldl_append, List.foldl_cons, List.foldl_nil]

theorem climb_valid {Valid : α → Prop}
    (closed : ∀ left right, Valid (combine left right)) {start : α}
    (valid : Valid start) (steps : List (PathStep α)) :
    Valid (climb combine start steps) := by
  induction steps using List.reverseRecOn with
  | nil => exact valid
  | append_singleton steps step _ =>
    rw [climb_append]
    exact closed _ _

end PathStep

open PathStep in
/-- A path that reaches the digest of a tree starts at one of its leaves, if
among valid values nothing but the pairs of the tree combines to their values
and nothing combines to a leaf. -/
theorem HashTree.mem_leaves_of_climb {Valid : α → Prop}
    (closed : ∀ left right, Valid (combine left right)) {start : α}
    (valid : Valid start) {steps : List (PathStep α)}
    (siblings : ∀ step ∈ steps, Valid step.sibling) {tree : HashTree α}
    (reached : climb combine start steps = tree.digest combine)
    (bound : ∀ pair ∈ tree.pairs combine, ∀ left right, Valid left →
      Valid right → combine left right = combine pair.1 pair.2 → (left, right) = pair)
    (leafApart : ∀ value ∈ tree.leaves, ∀ left right, Valid left →
      Valid right → combine left right ≠ value)
    (startApart : ∀ pair ∈ tree.pairs combine, start ≠ combine pair.1 pair.2) :
    start ∈ tree.leaves := by
  -- the last step of the path is peeled off against the root of the tree
  induction steps using List.reverseRecOn generalizing tree with
  | nil =>
    cases tree with
    | leaf value =>
      have equality : start = value := reached
      exact List.mem_singleton.mpr equality
    | node left right =>
      exact (startApart _ (List.mem_cons_self ..) reached).elim
  | append_singleton steps step ih =>
    have below : Valid (climb combine start steps) := climb_valid combine closed valid steps
    have beside : Valid step.sibling := siblings step (by simp)
    have earlier : ∀ step ∈ steps, Valid step.sibling := by
      intro step member
      exact siblings step (List.mem_append_left _ member)
    rw [climb_append] at reached
    have sides : Valid (step.pair (climb combine start steps)).1 ∧
        Valid (step.pair (climb combine start steps)).2 := by
      cases step with
      | onLeft sibling => exact ⟨beside, below⟩
      | onRight sibling => exact ⟨below, beside⟩
    cases tree with
    | leaf value =>
      exact (leafApart value (List.mem_singleton.mpr rfl) _ _ sides.1 sides.2 reached).elim
    | node left right =>
      have same := bound _ (List.mem_cons_self ..) _ _ sides.1 sides.2 reached
      have boundLeft := fun pair (member : pair ∈ left.pairs combine) =>
        bound pair (List.mem_cons_of_mem _ (List.mem_append_left _ member))
      have boundRight := fun pair (member : pair ∈ right.pairs combine) =>
        bound pair (List.mem_cons_of_mem _ (List.mem_append_right _ member))
      cases step with
      | onLeft sibling =>
        have inRight : start ∈ right.leaves := by
          apply ih earlier (Prod.mk.inj same).2 boundRight
          · intro value member
            exact leafApart value (List.mem_append_right _ member)
          · intro pair member
            exact startApart pair (List.mem_cons_of_mem _ (List.mem_append_right _ member))
        exact List.mem_append_right _ inRight
      | onRight sibling =>
        have inLeft : start ∈ left.leaves := by
          apply ih earlier (Prod.mk.inj same).1 boundLeft
          · intro value member
            exact leafApart value (List.mem_append_left _ member)
          · intro pair member
            exact startApart pair (List.mem_cons_of_mem _ (List.mem_append_left _ member))
        exact List.mem_append_left _ inLeft

end PromotedTree
end VeraHub

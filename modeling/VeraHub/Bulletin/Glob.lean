import Mathlib

/-!
# Glob patterns of bulletin queries

A post matches a glob when its identifier arises from the pattern by putting some
text for each star.  The code cuts the pattern at its first and its last star and
looks for each literal between them at its leftmost place, without going back.
-/

namespace VeraHub.Bulletin

/-! ## Searching a text -/

section Search

variable {α : Type} [DecidableEq α]

def splitOnce (separator : α) : List α → Option (List α × List α)
  | [] => none
  | head :: rest =>
    if head = separator then some ([], rest)
    else (splitOnce separator rest).map fun (before, after) => (head :: before, after)

def rsplitOnce (separator : α) (text : List α) : Option (List α × List α) :=
  (splitOnce separator text.reverse).map fun (after, before) => (before.reverse, after.reverse)

/-- What follows the leftmost occurrence of a literal. -/
def afterFirst (literal : List α) : List α → Option (List α)
  | [] => if literal = [] then some [] else none
  | head :: rest =>
    match (head :: rest).dropPrefix? literal with
    | some remaining => some remaining
    | none => afterFirst literal rest

/-- Take the literals one after another, each at its leftmost place. -/
def findEach (literals : List (List α)) (text : List α) : Option (List α) :=
  literals.foldlM (fun remaining literal => afterFirst literal remaining) text

variable {separator : α} {text before after literal : List α} {language : Language α}

theorem splitOnce_eq_none (found : splitOnce separator text = none) : separator ∉ text := by
  induction text with
  | nil => simp
  | cons head rest ih =>
    by_cases same : head = separator
    · simp [splitOnce, same] at found
    · simp only [splitOnce, if_neg same, Option.map_eq_none_iff] at found
      simp [ih found, Ne.symm same]

theorem splitOnce_eq_some (found : splitOnce separator text = some (before, after)) :
    text = before ++ separator :: after ∧ separator ∉ before := by
  induction text generalizing before with
  | nil => simp [splitOnce] at found
  | cons head rest ih =>
    by_cases same : head = separator
    · simp only [splitOnce, if_pos same, Option.some.injEq, Prod.mk.injEq] at found
      simp [← found.1, found.2, same]
    · simp only [splitOnce, if_neg same, Option.map_eq_some_iff, Prod.exists, Prod.mk.injEq] at found
      obtain ⟨front, _, cut, rfl, rfl⟩ := found
      obtain ⟨rfl, apart⟩ := ih cut
      simp [apart, Ne.symm same]

theorem rsplitOnce_eq_some (found : rsplitOnce separator text = some (before, after)) :
    text = before ++ separator :: after ∧ separator ∉ after := by
  simp only [rsplitOnce, Option.map_eq_some_iff, Prod.exists, Prod.mk.injEq] at found
  obtain ⟨last, front, cut, rfl, rfl⟩ := found
  obtain ⟨reversed, apart⟩ := splitOnce_eq_some cut
  rw [List.reverse_eq_iff] at reversed
  simp [reversed, apart]

theorem dropPrefix?_iff : text.dropPrefix? literal = some after ↔ text = literal ++ after := by
  simp [List.dropPrefix?_eq_some_iff]

theorem dropSuffix?_iff : text.dropSuffix? literal = some before ↔ text = before ++ literal := by
  simp [List.dropSuffix?_eq_some_iff]

omit [DecidableEq α] in
theorem mem_top_mul_iff : text ∈ ⊤ * language ↔ ∃ rest ∈ language, rest <:+ text := by
  rw [Language.mem_mul]
  constructor
  · rintro ⟨front, _, rest, member, rfl⟩
    exact ⟨rest, member, List.suffix_append front rest⟩
  · rintro ⟨rest, member, front, whole⟩
    exact ⟨front, trivial, rest, member, whole⟩

omit [DecidableEq α] in
theorem mem_singleton_mul_iff :
    text ∈ ({literal} : Language α) * language ↔ ∃ rest ∈ language, literal ++ rest = text := by
  rw [Language.mem_mul]
  exact exists_eq_left

omit [DecidableEq α] in
theorem mem_mul_singleton_iff :
    text ∈ language * ({literal} : Language α) ↔ ∃ rest ∈ language, rest ++ literal = text := by
  rw [Language.mem_mul]
  exact exists_congr fun rest => and_congr_right fun _ => exists_eq_left

/-- It is enough to look at the leftmost occurrence: any other leaves less. -/
theorem mem_search_iff : text ∈ ⊤ * ({literal} * (⊤ * language)) ↔
    ∃ rest, afterFirst literal text = some rest ∧ rest ∈ ⊤ * language := by
  have occurs : ∀ text, text ∈ ⊤ * ({literal} * (⊤ * language)) ↔
      ∃ rest ∈ ⊤ * language, literal ++ rest <:+ text := by
    simp [mem_top_mul_iff, mem_singleton_mul_iff]
  rw [occurs]
  induction text with
  | nil => by_cases empty : literal = [] <;> simp [afterFirst, empty]
  | cons head tail ih =>
    cases start : (head :: tail).dropPrefix? literal with
    | none =>
      have apart : ∀ rest, literal ++ rest ≠ head :: tail := by
        intro rest same
        simp [dropPrefix?_iff.mpr same.symm] at start
      simp [afterFirst, start, ← ih, List.suffix_cons_iff, apart]
    | some remaining =>
      have whole := dropPrefix?_iff.mp start
      simp only [afterFirst, start, Option.some.injEq, exists_eq_left']
      rw [whole]
      constructor
      · rintro ⟨rest, member, ends⟩
        have shorter := ends.length_le
        simp only [List.length_append, Nat.add_le_add_iff_left] at shorter
        have ends := List.suffix_of_suffix_length_le ((List.suffix_append literal rest).trans ends)
          (List.suffix_append literal remaining) shorter
        rw [mem_top_mul_iff] at member ⊢
        obtain ⟨found, listed, inside⟩ := member
        exact ⟨found, listed, inside.trans ends⟩
      · exact fun member => ⟨remaining, member, List.suffix_rfl⟩

end Search

/-! ## Patterns -/

/-- The texts that arise from a pattern by putting some text for each star. -/
def Instances (pattern : List Char) : Language Char :=
  (pattern.map fun letter => if letter = '*' then ⊤ else {[letter]}).prod

def globMatch (pattern value : String) : Bool :=
  match splitOnce '*' pattern.toList with
  | none => pattern = value
  | some (start, rest) =>
    match value.toList.dropPrefix? start with
    | none => false
    | some value =>
      let (middle, suffix) := (rsplitOnce '*' rest).getD ([], rest)
      match value.dropSuffix? suffix with
      | none => false
      | some remaining =>
        (findEach ((middle.splitOn '*').filter fun literal => !literal.isEmpty) remaining).isSome

@[simp]
theorem instances_append (first second : List Char) :
    Instances (first ++ second) = Instances first * Instances second := by
  simp [Instances]

@[simp]
theorem instances_star (pattern : List Char) : Instances ('*' :: pattern) = ⊤ * Instances pattern := by
  simp [Instances]

theorem instances_plain {pattern : List Char} (plain : '*' ∉ pattern) :
    Instances pattern = {pattern} := by
  induction pattern with
  | nil => rfl
  | cons head pattern ih =>
    simp only [List.mem_cons, not_or] at plain
    have split : Instances (head :: pattern) = {[head]} * Instances pattern := by
      simp [Instances, Ne.symm plain.1]
    ext text
    rw [split, ih plain.2, mem_singleton_mul_iff]
    exact exists_eq_left.trans eq_comm

theorem afterFirst_nil (text : List Char) : afterFirst [] text = some text := by
  cases text <;> rfl

theorem findEach_cons (literal : List Char) (literals : List (List Char)) (text : List Char) :
    findEach (literal :: literals) text = (afterFirst literal text).bind (findEach literals) := by
  rfl

theorem findEach_filter (literals : List (List Char)) (text : List Char) :
    findEach (literals.filter fun literal => !literal.isEmpty) text = findEach literals text := by
  induction literals generalizing text with
  | nil => rfl
  | cons literal literals ih =>
    have same := funext ih
    cases literal with
    | nil => simpa [findEach_cons, afterFirst_nil] using ih text
    | cons head tail => simp [findEach_cons, same]

theorem findEach_isSome_iff (middle value : List Char) :
    (findEach (middle.splitOn '*') value).isSome = true ↔ value ∈ ⊤ * (Instances middle * ⊤) := by
  have step : ∀ literal : List Char, '*' ∉ literal → ∀ pattern,
      value ∈ ⊤ * (Instances (literal ++ '*' :: pattern) * ⊤) ↔
        ∃ rest, afterFirst literal value = some rest ∧ rest ∈ ⊤ * (Instances pattern * ⊤) := by
    intro literal plain pattern
    rw [← mem_search_iff]
    simp [instances_plain plain, mul_assoc]
  cases cut : splitOnce '*' middle with
  | none =>
    have plain := splitOnce_eq_none cut
    have search := @mem_search_iff _ _ value middle 1
    rw [mul_one] at search
    rw [List.splitOn_eq_singleton plain, findEach_cons, instances_plain plain, search]
    cases found : afterFirst middle value with
    | none => simp
    | some rest =>
      have anything : rest ∈ (⊤ : Language Char) := trivial
      simp [findEach, anything]
  | some parts =>
    obtain ⟨literal, pattern⟩ := parts
    obtain ⟨rfl, plain⟩ := splitOnce_eq_some cut
    rw [List.splitOn_append_cons_self_of_not_mem plain, findEach_cons, step literal plain]
    cases found : afterFirst literal value with
    | none => simp
    | some rest => simpa using findEach_isSome_iff pattern rest
termination_by middle.length

/-- What follows the first star: literals between stars and the text behind the last one. -/
theorem instances_rest {rest : List Char} {ending : List Char × List Char}
    (cut : (rsplitOnce '*' rest).getD ([], rest) = ending) :
    ⊤ * Instances rest = ⊤ * (Instances ending.1 * ⊤) * {ending.2} := by
  cases found : rsplitOnce '*' rest with
  | none =>
    have plain : '*' ∉ rest := by
      simpa using splitOnce_eq_none (Option.map_eq_none_iff.mp found)
    have once : (⊤ * ⊤ : Language Char) = ⊤ :=
      top_unique fun text _ => mem_top_mul_iff.mpr ⟨text, trivial, List.suffix_rfl⟩
    have nothing : Instances [] = 1 := rfl
    simp [← cut, found, instances_plain plain, nothing, once]
  | some parts =>
    obtain ⟨whole, plain⟩ := rsplitOnce_eq_some found
    rw [whole, ← cut, found]
    simp [instances_plain plain, mul_assoc]

theorem glob_match_iff_instance (pattern value : String) :
    globMatch pattern value = true ↔ value.toList ∈ Instances pattern.toList := by
  unfold globMatch
  cases found : splitOnce '*' pattern.toList with
  | none =>
    rw [instances_plain (splitOnce_eq_none found), decide_eq_true_iff, ← String.toList_inj]
    exact eq_comm
  | some parts =>
    obtain ⟨start, rest⟩ := parts
    obtain ⟨whole, plain⟩ := splitOnce_eq_some found
    generalize value.toList = value
    generalize cut : (rsplitOnce '*' rest).getD ([], rest) = ending
    rw [whole, instances_append, instances_star, instances_plain plain, mem_singleton_mul_iff,
      instances_rest cut]
    simp only [cut, findEach_filter]
    cases stripped : value.dropPrefix? start with
    | none =>
      have apart : ∀ after, start ++ after ≠ value := by
        intro after same
        simp [dropPrefix?_iff.mpr same.symm] at stripped
      simp [apart]
    | some after =>
      have starts := dropPrefix?_iff.mp stripped
      simp only [starts, List.append_cancel_left_eq, exists_eq_right, mem_mul_singleton_iff]
      cases ended : after.dropSuffix? ending.2 with
      | none =>
        have apart : ∀ remaining, remaining ++ ending.2 ≠ after := by
          intro remaining same
          simp [dropSuffix?_iff.mpr same.symm] at ended
        simp [apart]
      | some remaining =>
        simp [dropSuffix?_iff.mp ended, findEach_isSome_iff]

end VeraHub.Bulletin

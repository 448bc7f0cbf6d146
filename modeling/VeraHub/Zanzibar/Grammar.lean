import VeraHub.Library.Exec
import VeraHub.Zanzibar.Expression

/-!
# The grammar of relation expressions

An operand is `_this`, a relation, an arrow between two relations or an
expression in parentheses, with white space around it.  An expression is an
operand, or an expression, an operator and an operand: the operators have equal
precedence and group to the left.  The parser looks for the last operator
outside parentheses instead; it accepts exactly the texts of the grammar whose
trees stay within its nesting bound, and returns their trees with nested unions
and nested intersections joined.
-/

namespace VeraHub.Zanzibar

/-! ## Syntax trees -/

inductive BinaryOperator where
  | union
  | intersection
  | difference
deriving DecidableEq, Repr

def BinaryOperator.symbol : BinaryOperator → Char
  | .union => '+'
  | .intersection => '&'
  | .difference => '-'

/-- What a text says, with its parentheses. -/
inductive SyntaxTree where
  | this
  | relation (name : List Char)
  | arrow (tupleRelation computedRelation : List Char)
  | parenthesized (inner : SyntaxTree)
  | binary (operator : BinaryOperator) (left right : SyntaxTree)

namespace SyntaxTree

/-- The levels of a tree, where parentheses and operators count one each. -/
def levels : SyntaxTree → Nat
  | parenthesized inner => inner.levels + 1
  | binary _ left right => max left.levels right.levels + 1
  | _ => 1

def parentheses : SyntaxTree → Nat
  | parenthesized inner => inner.parentheses + 1
  | binary _ left right => max left.parentheses right.parentheses
  | _ => 0

/-- The expression of a tree: parentheses only group, and a union in a union or
an intersection in an intersection is joined with it. -/
def expression : SyntaxTree → RelationExpression
  | this => .this
  | relation name => .computedUserset (String.ofList name)
  | arrow tupleRelation computedRelation =>
    .tupleToUserset (String.ofList tupleRelation) (String.ofList computedRelation)
  | parenthesized inner => inner.expression
  | binary .union left right => mergeUnion left.expression right.expression
  | binary .intersection left right =>
    mergeIntersection left.expression right.expression
  | binary .difference left right =>
    .difference left.expression right.expression

end SyntaxTree

/-! ## The grammar -/

def isIdentifierCharacter (character : Char) : Bool :=
  isAsciiAlphanumeric character || character = '_'

/-- Letters, digits and underscores that do not begin with a digit. -/
def IsIdentifier (text : List Char) : Prop :=
  (∃ first rest, text = first :: rest ∧
    (isAsciiAlphabetic first = true ∨ first = '_')) ∧
      ∀ character ∈ text, isIdentifierCharacter character = true

def IsPadding (text : List Char) : Prop :=
  ∀ character ∈ text, isWhiteSpace character = true

inductive SyntaxKind where
  | operand
  | expression

/-- The texts of the grammar and their trees. -/
inductive Generates : SyntaxKind → SyntaxTree → List Char → Prop where
  | this {before after : List Char} (paddedBefore : IsPadding before)
      (paddedAfter : IsPadding after) :
      Generates .operand .this (before ++ ("_this".toList ++ after))
  | relation {before name after : List Char} (paddedBefore : IsPadding before)
      (paddedAfter : IsPadding after) (identifier : IsIdentifier name)
      (notThis : name ≠ "_this".toList) :
      Generates .operand (.relation name) (before ++ (name ++ after))
  | arrow {before tupleRelation left right computedRelation after : List Char}
      (paddedBefore : IsPadding before) (paddedLeft : IsPadding left)
      (paddedRight : IsPadding right) (paddedAfter : IsPadding after)
      (tuple : IsIdentifier tupleRelation) (computed : IsIdentifier computedRelation) :
      Generates .operand (.arrow tupleRelation computedRelation)
        (before ++ (tupleRelation ++ left ++ '-' :: '>' :: (right ++ computedRelation) ++ after))
  | parenthesized {before text after : List Char} {inner : SyntaxTree}
      (paddedBefore : IsPadding before) (paddedAfter : IsPadding after)
      (generates : Generates .expression inner text) :
      Generates .operand (.parenthesized inner) (before ++ ('(' :: text ++ [')'] ++ after))
  | operand {tree : SyntaxTree} {text : List Char} (generates : Generates .operand tree text) :
      Generates .expression tree text
  | binary {first second : List Char} {left right : SyntaxTree}
      (operator : BinaryOperator) (before : Generates .expression left first)
      (after : Generates .operand right second) :
      Generates .expression (.binary operator left right) (first ++ operator.symbol :: second)

/-! ## Characters -/

/-- The characters that the scans of the parser react to. -/
def isMark (character : Char) : Bool :=
  character = '(' || character = ')' || character = '+' || character = '&' || character = '-'

variable {character : Char}

/-- A property that no mark has. -/
def Unmarked (property : Char → Bool) : Prop :=
  ['(', ')', '+', '&', '-'].all (fun mark => !property mark) = true

theorem Unmarked.not_mark {property : Char → Bool} (unmarked : Unmarked property)
    (holds : property character = true) : isMark character = false := by
  rw [Bool.eq_false_iff]
  intro mark
  have listed : character ∈ ['(', ')', '+', '&', '-'] := by
    simpa [isMark, or_assoc] using mark
  have lacks := List.all_eq_true.mp unmarked character listed
  rw [holds] at lacks
  cases lacks

theorem unmarked_identifier : Unmarked isIdentifierCharacter := by
  rfl

theorem unmarked_whiteSpace : Unmarked isWhiteSpace := by
  rfl

theorem isIdentifierCharacter_not_white
    (valid : isIdentifierCharacter character = true) : isWhiteSpace character = false := by
  rw [Bool.eq_false_iff]
  intro white
  simp only [isIdentifierCharacter, isAsciiAlphanumeric, isAsciiAlphabetic,
    Bool.or_eq_true, Bool.and_eq_true, decide_eq_true_eq, Char.le_def,
    UInt32.le_iff_toNat_le] at valid
  simp only [isWhiteSpace, Char.toNat, Bool.or_eq_true, Bool.and_eq_true,
    decide_eq_true_eq, beq_iff_eq] at white
  rcases valid with ((letter | letter) | digit) | rfl
  · have lower : 97 ≤ character.val.toNat ∧ character.val.toNat ≤ 122 := letter
    omega
  · have upper : 65 ≤ character.val.toNat ∧ character.val.toNat ≤ 90 := letter
    omega
  · have digit : 48 ≤ character.val.toNat ∧ character.val.toNat ≤ 57 := digit
    omega
  · revert white
    decide

variable {text : List Char}

theorem IsIdentifier.ne_nil (valid : IsIdentifier text) : text ≠ [] := by
  obtain ⟨⟨first, rest, rfl, _⟩, _⟩ := valid
  exact List.cons_ne_nil first rest

theorem validateIdentifier_ok : validateIdentifier text = .ok () ↔ IsIdentifier text := by
  cases text with
  | nil =>
    constructor
    · intro accepted
      cases accepted
    · intro identifier
      exact (identifier.ne_nil rfl).elim
  | cons first rest =>
    simp only [validateIdentifier]
    constructor
    · intro accepted
      obtain ⟨begins, accepted⟩ := ifError_ok accepted
      split at accepted
      · cases accepted
      · rename_i clean
        rw [List.find?_eq_none] at clean
        refine ⟨⟨first, rest, rfl, ?_⟩, ?_⟩
        · simp only [Bool.and_eq_true, Bool.not_eq_true', decide_eq_true_eq,
            not_and_or, Bool.not_eq_false, ne_eq, not_not] at begins
          exact begins
        · intro character member
          have kept := clean character member
          simp only [Bool.and_eq_true, Bool.not_eq_true',
            decide_eq_true_eq, not_and_or, Bool.not_eq_false, ne_eq, not_not] at kept
          simpa [isIdentifierCharacter] using kept
    · rintro ⟨⟨head, tail, shape, begins⟩, clean⟩
      obtain ⟨rfl, rfl⟩ := List.cons.inj shape
      have letter : ¬ (!isAsciiAlphabetic first && decide (first ≠ '_')) =
          true := by
        rcases begins with alphabetic | underscore
        · simp [alphabetic]
        · simp [underscore]
      have none : (first :: rest).find? (fun character =>
          !isAsciiAlphanumeric character && decide (character ≠ '_')) =
            none := by
        rw [List.find?_eq_none]
        intro character member
        have valid := clean character member
        simp only [isIdentifierCharacter, Bool.or_eq_true, decide_eq_true_eq] at valid
        rcases valid with alphanumeric | underscore
        · simp [alphanumeric]
        · simp [underscore]
      rw [if_neg letter, none]

/-! ## Scanning -/

def IsPlain (text : List Char) : Prop :=
  ∀ character ∈ text, isMark character = false

theorem IsPadding.plain (padding : IsPadding text) : IsPlain text :=
  fun character member => unmarked_whiteSpace.not_mark (padding character member)

theorem IsIdentifier.plain (valid : IsIdentifier text) : IsPlain text :=
  fun character member => unmarked_identifier.not_mark (valid.2 character member)

theorem IsPadding.eq_nil_of_head {before core : List Char} (padding : IsPadding before)
    (dark : isWhiteSpace character = false)
    (head : (before ++ core).head? = some character) : before = [] := by
  cases before with
  | nil => rfl
  | cons first before =>
    have white := padding first List.mem_cons_self
    rw [Option.some.inj head, dark] at white
    cases white

theorem IsIdentifier.head_ne {name rest : List Char} (identifier : IsIdentifier name)
    (foreign : isIdentifierCharacter character = false) :
    (name ++ rest).head? ≠ some character := by
  intro head
  obtain ⟨⟨first, later, rfl, _⟩, valid⟩ := identifier
  have clean := valid first List.mem_cons_self
  rw [Option.some.inj head, foreign] at clean
  cases clean

theorem plain_this : IsPlain "_this".toList := by
  have listed : "_this".toList.all (fun letter => !isMark letter) = true := by decide
  intro letter member
  have plain := List.all_eq_true.mp listed letter member
  simpa using plain

variable {first second : List Char}

theorem IsPlain.append (left : IsPlain first)
    (right : IsPlain second) : IsPlain (first ++ second) :=
  List.forall_mem_append.mpr ⟨left, right⟩

theorem not_mark (clean : isMark character = false) :
    character ≠ '(' ∧ character ≠ ')' ∧ character ≠ '+' ∧ character ≠ '&' ∧ character ≠ '-' := by
  simpa [isMark, and_assoc] using clean

theorem closesAtEnd_cons (rest : List Char) (depth : Int)
    (notOpen : character ≠ '(') (notClosed : character ≠ ')') :
    closesAtEnd (character :: rest) depth = closesAtEnd rest depth := by
  rw [closesAtEnd]
  · exact fun opened => notOpen opened
  · exact fun closed => notClosed closed

variable {depth : Int}

theorem closesAtEnd_closed (rest : List Char) (inside : 0 < depth) :
    closesAtEnd (')' :: rest) (depth + 1) = closesAtEnd rest depth := by
  have outer : depth + 1 - 1 = depth := by omega
  have above : ¬ (depth = 0 ∧ rest ≠ []) := by omega
  rw [closesAtEnd, outer, if_neg above]

theorem closesAtEnd_plain (plain : IsPlain text) (rest : List Char) (depth : Int) :
    closesAtEnd (text ++ rest) depth = closesAtEnd rest depth := by
  induction text with
  | nil => rfl
  | cons character text ih =>
    obtain ⟨clean, plainRest⟩ := List.forall_mem_cons.mp plain
    obtain ⟨notOpen, notClosed, _⟩ := not_mark clean
    rw [List.cons_append, closesAtEnd_cons _ _ notOpen notClosed, ih plainRest]

theorem findRightmostOperator_cons (rest : List Char)
    (position : Nat) (depth : Int) (rightmost : Option (Nat × Char))
    (notOpen : character ≠ '(') (notClosed : character ≠ ')') :
    findRightmostOperator (character :: rest) position depth rightmost =
      findRightmostOperator rest (position + 1) depth
        (if (character = '+' || character = '&' ||
            (character = '-' && rest.head? ≠ some '>')) && depth = 0 then
          some (position, character)
        else rightmost) := by
  rw [findRightmostOperator]
  · exact fun opened => notOpen opened
  · exact fun closed => notClosed closed

/-- An operator that is not the hyphen of an arrow counts outside
parentheses. -/
theorem findRightmostOperator_symbol (operator : BinaryOperator)
    (rest : List Char) (position : Nat) (depth : Int)
    (rightmost : Option (Nat × Char)) (notArrow : rest.head? ≠ some '>') :
    findRightmostOperator (operator.symbol :: rest) position depth rightmost =
      findRightmostOperator rest (position + 1) depth
        (if depth = 0 then some (position, operator.symbol)
        else rightmost) := by
  rw [findRightmostOperator_cons]
  · cases operator <;> simp [BinaryOperator.symbol, notArrow]
  · cases operator <;> decide
  · cases operator <;> decide

theorem findRightmostOperator_plain (plain : IsPlain text) (rest : List Char) (position : Nat)
    (depth : Int) (rightmost : Option (Nat × Char)) :
    findRightmostOperator (text ++ rest) position depth rightmost =
      findRightmostOperator rest (position + text.length) depth rightmost := by
  induction text generalizing position with
  | nil => rfl
  | cons character text ih =>
    obtain ⟨clean, plainRest⟩ := List.forall_mem_cons.mp plain
    obtain ⟨notOpen, notClosed, notPlus, notAnd, notMinus⟩ := not_mark clean
    rw [List.cons_append, findRightmostOperator_cons _ _ _ _ notOpen notClosed]
    simp only [notPlus, notAnd, notMinus, decide_false, Bool.false_or,
      Bool.false_and, Bool.false_eq_true, if_false, List.length_cons]
    rw [ih plainRest]
    congr 1
    omega

namespace Generates

variable {kind : SyntaxKind} {tree : SyntaxTree} {text : List Char}

theorem closesAtEnd_append (generates : Generates kind tree text)
    (rest : List Char) (inside : 0 < depth) :
    closesAtEnd (text ++ rest) depth = closesAtEnd rest depth := by
  induction generates generalizing rest depth with
  | this before after =>
    rw [closesAtEnd_plain (before.plain.append (plain_this.append after.plain))]
  | relation before after identifier =>
    rw [closesAtEnd_plain (before.plain.append (identifier.plain.append after.plain))]
  | arrow before left right after tuple computed =>
    simp only [List.append_assoc, List.cons_append]
    rw [closesAtEnd_plain before.plain, closesAtEnd_plain tuple.plain, closesAtEnd_plain left.plain,
      closesAtEnd_cons _ _ (by decide) (by decide), closesAtEnd_cons _ _ (by decide) (by decide),
      closesAtEnd_plain right.plain, closesAtEnd_plain computed.plain,
      closesAtEnd_plain after.plain]
  | parenthesized before after _ ih =>
    simp only [List.append_assoc, List.cons_append, List.nil_append]
    rw [closesAtEnd_plain before.plain, closesAtEnd,
      ih _ (by omega), closesAtEnd_closed _ inside, closesAtEnd_plain after.plain]
  | operand _ ih => exact ih rest inside
  | binary operator _ _ first second =>
    rw [List.append_assoc, List.cons_append, first _ inside, closesAtEnd_cons, second _ inside]
    · cases operator <;> decide
    · cases operator <;> decide

theorem head_ne (generates : Generates .operand tree text) (rest : List Char) :
    (text ++ rest).head? ≠ some '>' := by
  have padded : ∀ {before core : List Char}, IsPadding before →
      core.head? ≠ some '>' → (before ++ core).head? ≠ some '>' := by
    intro before core padding apart head
    rw [padding.eq_nil_of_head (by decide) head] at head
    exact apart head
  cases generates with
  | this before =>
    rw [List.append_assoc]
    exact padded before (by simp)
  | relation before _ identifier =>
    rw [List.append_assoc, List.append_assoc]
    exact padded before (identifier.head_ne (by decide))
  | arrow before _ _ _ tuple =>
    simp only [List.append_assoc]
    exact padded before (tuple.head_ne (by decide))
  | parenthesized before =>
    rw [List.append_assoc]
    exact padded before (by simp)

/-- A scan passes over an operand; in an expression it may meet an operator,
and outside parentheses it does unless the expression is an operand. -/
theorem findRightmostOperator_append (generates : Generates kind tree text)
    (rest : List Char) (position : Nat) (above : 0 ≤ depth) (rightmost : Option (Nat × Char)) :
    ∃ found,
      findRightmostOperator (text ++ rest) position depth rightmost =
          findRightmostOperator rest (position + text.length) depth found ∧
        (0 < depth ∨ Generates .operand tree text → found = rightmost) ∧
        (Generates .operand tree text ∨ depth ≠ 0 ∨
          ∃ later operator, found = some (later, operator) ∧ position ≤ later) := by
  induction generates generalizing rest position depth rightmost with
  | this before after =>
    refine ⟨rightmost, findRightmostOperator_plain
      (before.plain.append (plain_this.append after.plain)) .., fun _ => rfl, .inl (.this before after)⟩
  | relation before after identifier notThis =>
    refine ⟨rightmost, findRightmostOperator_plain
      (before.plain.append (identifier.plain.append after.plain)) ..,
      fun _ => rfl, .inl (.relation before after identifier notThis)⟩
  | arrow before left right after tuple computed =>
    refine ⟨rightmost, ?_, fun _ => rfl, .inl (.arrow before left right after tuple computed)⟩
    simp only [List.append_assoc, List.cons_append]
    rw [findRightmostOperator_plain before.plain, findRightmostOperator_plain tuple.plain,
      findRightmostOperator_plain left.plain,
      findRightmostOperator_cons _ _ _ _ (by decide) (by decide),
      findRightmostOperator_cons _ _ _ _ (by decide) (by decide),
      findRightmostOperator_plain right.plain, findRightmostOperator_plain computed.plain,
      findRightmostOperator_plain after.plain]
    simp only [List.head?_cons, List.length_append, List.length_cons]
    congr 1
    omega
  | parenthesized before after inner ih =>
    refine ⟨rightmost, ?_, fun _ => rfl, .inl (.parenthesized before after inner)⟩
    simp only [List.append_assoc, List.cons_append, List.nil_append]
    rw [findRightmostOperator_plain before.plain, findRightmostOperator]
    obtain ⟨found, scanned, kept, _⟩ := ih
      (')' :: (_ ++ rest)) _ (by omega : 0 ≤ depth + 1) rightmost
    rw [scanned, kept (.inl (by omega)), findRightmostOperator,
      findRightmostOperator_plain after.plain]
    simp only [List.length_append, List.length_cons]
    congr 1
    · omega
    · omega
  | operand operand ih =>
    exact ih rest position above rightmost
  | @binary firstText secondText _ _ operator before after first second =>
    obtain ⟨found, scanned, kept, _⟩ := first
      (operator.symbol :: (secondText ++ rest)) position above rightmost
    obtain ⟨same, passed, unchanged, _⟩ := second rest (position + firstText.length + 1) above
      (if depth = 0 then
        some (position + firstText.length, operator.symbol)
      else found)
    refine ⟨if depth = 0 then
        some (position + firstText.length, operator.symbol)
      else found, ?_, ?_, ?_⟩
    · rw [List.append_assoc, List.cons_append, scanned,
        findRightmostOperator_symbol _ _ _ _ _ (after.head_ne rest), passed,
        unchanged (.inr after), List.length_append, List.length_cons]
      congr 1
      omega
    · rintro (inside | operand)
      · rw [if_neg (by omega), kept (.inl inside)]
      · cases operand
    · by_cases outside : depth = 0
      · rw [if_pos outside]
        exact .inr (.inr ⟨_, _, rfl, Nat.le_add_right _ _⟩)
      · exact .inr (.inl outside)

end Generates

/-! ## White space -/

theorem IsPadding.append (left : IsPadding first)
    (right : IsPadding second) : IsPadding (first ++ second) :=
  List.forall_mem_append.mpr ⟨left, right⟩

theorem isPadding_nil : IsPadding [] :=
  List.forall_mem_nil _

/-- Text that begins and ends with something other than white space. -/
structure IsCore (text : List Char) : Prop where
  first : ∃ character rest, text = character :: rest ∧ isWhiteSpace character = false
  last : ∃ rest character, text = rest ++ [character] ∧ isWhiteSpace character = false

theorem IsIdentifier.core (valid : IsIdentifier text) : IsCore text where
  first := by
    obtain ⟨⟨first, rest, rfl, _⟩, clean⟩ := valid
    exact ⟨first, rest, rfl, isIdentifierCharacter_not_white (clean first (List.mem_cons_self ..))⟩
  last := by
    have shape := List.dropLast_append_getLast valid.ne_nil
    exact ⟨_, _, shape.symm, isIdentifierCharacter_not_white
      (valid.2 _ (List.getLast_mem valid.ne_nil))⟩

theorem IsCore.append {last : List Char} (before : IsCore first)
    (after : IsCore last) (middle : List Char) : IsCore (first ++ (middle ++ last)) where
  first := by
    obtain ⟨character, rest, rfl, dark⟩ := before.first
    exact ⟨character, _, rfl, dark⟩
  last := by
    obtain ⟨rest, character, rfl, dark⟩ := after.last
    exact ⟨first ++ (middle ++ rest), character, by simp, dark⟩

variable {before : List Char}

theorem dropWhile_padding (padding : IsPadding before)
    {core : List Char} (dark : ∃ character rest, core = character :: rest ∧
      isWhiteSpace character = false) :
    (before ++ core).dropWhile isWhiteSpace = core := by
  obtain ⟨character, rest, rfl, dark⟩ := dark
  rw [List.dropWhile_append_of_pos padding,
    List.dropWhile_cons_of_neg (by rw [dark]; exact Bool.false_ne_true)]

theorem trim_core {before core after : List Char}
    (paddedBefore : IsPadding before) (paddedAfter : IsPadding after)
    (isCore : IsCore core) : trim (before ++ (core ++ after)) = core := by
  have front : ∃ character rest, core ++ after = character :: rest ∧
      isWhiteSpace character = false := by
    obtain ⟨character, rest, rfl, dark⟩ := isCore.first
    exact ⟨character, rest ++ after, rfl, dark⟩
  have back : ∃ character rest, core.reverse = character :: rest ∧
      isWhiteSpace character = false := by
    obtain ⟨rest, character, rfl, dark⟩ := isCore.last
    exact ⟨character, rest.reverse, by simp, dark⟩
  have reversed : IsPadding after.reverse := by
    intro character member
    exact paddedAfter character (List.mem_reverse.mp member)
  unfold trim
  rw [dropWhile_padding paddedBefore front, List.reverse_append,
    dropWhile_padding reversed back, List.reverse_reverse]

theorem IsCore.trim_eq (isCore : IsCore text) : trim text = text := by
  have trimmed := trim_core isPadding_nil isPadding_nil isCore
  simpa using trimmed

theorem this_core : IsCore "_this".toList :=
  ⟨⟨'_', "this".toList, rfl, by decide⟩, ⟨"_thi".toList, 's', rfl, by decide⟩⟩

theorem enclosed_core (text : List Char) : IsCore ('(' :: text ++ [')']) :=
  ⟨⟨'(', _, rfl, by decide⟩, ⟨'(' :: text, ')', rfl, by decide⟩⟩

theorem arrow_core {tuple computed : List Char} (validTuple : IsIdentifier tuple)
    (validComputed : IsIdentifier computed) (left right : List Char) :
    IsCore (tuple ++ left ++ '-' :: '>' :: (right ++ computed)) := by
  have joined := validTuple.core.append validComputed.core (left ++ '-' :: '>' :: right)
  simpa using joined

theorem exists_padding (text : List Char) :
    ∃ before after, IsPadding before ∧ IsPadding after ∧ text = before ++ (trim text ++ after) := by
  have taken : ∀ text : List Char, IsPadding (text.takeWhile isWhiteSpace) := by
    intro text character member
    exact List.all_eq_true.mp List.all_takeWhile character member
  refine ⟨text.takeWhile isWhiteSpace,
    ((text.dropWhile isWhiteSpace).reverse.takeWhile isWhiteSpace).reverse, taken text, ?_, ?_⟩
  · intro character member
    exact taken _ character (List.mem_reverse.mp member)
  · unfold trim
    rw [← List.reverse_append, List.takeWhile_append_dropWhile,
      List.reverse_reverse, List.takeWhile_append_dropWhile]

namespace Generates

variable {kind : SyntaxKind} {tree : SyntaxTree} {text : List Char}

/-- A generated text is padding around a core, and any other padding does. -/
theorem core (generates : Generates kind tree text) :
    ∃ before core after, IsPadding before ∧ IsPadding after ∧ IsCore core ∧
      text = before ++ (core ++ after) ∧
        ∀ {left right : List Char}, IsPadding left → IsPadding right →
          Generates kind tree (left ++ (core ++ right)) := by
  induction generates with
  | @this before after paddedBefore paddedAfter =>
    exact ⟨before, _, after, paddedBefore, paddedAfter, this_core, rfl,
      fun left right => .this left right⟩
  | @relation before name after paddedBefore paddedAfter identifier notThis =>
    exact ⟨before, name, after, paddedBefore, paddedAfter, identifier.core,
      rfl, fun left right => .relation left right identifier notThis⟩
  | @arrow before tuple left right computed after paddedBefore paddedLeft
      paddedRight paddedAfter validTuple validComputed =>
    exact ⟨before, _, after, paddedBefore, paddedAfter,
      arrow_core validTuple validComputed left right, rfl,
      fun first last => .arrow first paddedLeft paddedRight last validTuple validComputed⟩
  | @parenthesized before text after inner paddedBefore paddedAfter generates =>
    exact ⟨before, _, after, paddedBefore, paddedAfter, enclosed_core text, rfl,
      fun left right => .parenthesized left right generates⟩
  | operand _ ih =>
    obtain ⟨before, core, after, paddedBefore, paddedAfter, isCore, shape, padded⟩ := ih
    exact ⟨before, core, after, paddedBefore, paddedAfter, isCore, shape,
      fun left right => .operand (padded left right)⟩
  | binary operator _ _ first second =>
    obtain ⟨before, firstCore, inner, paddedBefore, paddedInner, isFirst, rfl, leftPadded⟩ := first
    obtain ⟨outer, secondCore, after, paddedOuter, paddedAfter, isSecond,
      rfl, rightPadded⟩ := second
    refine ⟨before, firstCore ++ ((inner ++ operator.symbol :: outer) ++
      secondCore), after, paddedBefore, paddedAfter, isFirst.append isSecond _, by simp, ?_⟩
    intro left right paddedLeft paddedRight
    have joined := Generates.binary operator (leftPadded paddedLeft paddedInner)
      (rightPadded paddedOuter paddedRight)
    simpa using joined

theorem trimmed (generates : Generates kind tree text) :
    Generates kind tree (trim text) ∧ IsCore (trim text) := by
  obtain ⟨before, core, after, paddedBefore, paddedAfter, isCore, rfl, padded⟩ := generates.core
  rw [trim_core paddedBefore paddedAfter isCore]
  have alone := padded isPadding_nil isPadding_nil
  simp only [List.nil_append, List.append_nil] at alone
  exact ⟨alone, isCore⟩

theorem pad_left (generates : Generates kind tree text)
    (padding : IsPadding before) : Generates kind tree (before ++ text) := by
  obtain ⟨left, core, right, paddedLeft, paddedRight, _, rfl, padded⟩ := generates.core
  have whole := padded (padding.append paddedLeft) paddedRight
  rwa [List.append_assoc] at whole

theorem pad_right (generates : Generates kind tree text) {after : List Char}
    (padding : IsPadding after) : Generates kind tree (text ++ after) := by
  obtain ⟨left, core, right, paddedLeft, paddedRight, _, rfl, padded⟩ := generates.core
  have whole := padded paddedLeft (paddedRight.append padding)
  rw [List.append_assoc, List.append_assoc]
  exact whole

theorem of_trim (generates : Generates kind tree (trim text)) :
    Generates kind tree text := by
  obtain ⟨before, after, paddedBefore, paddedAfter, shape⟩ := exists_padding text
  rw [shape]
  exact (generates.pad_right paddedAfter).pad_left paddedBefore

end Generates

/-! ## Parsing generated texts -/

variable {operator : BinaryOperator}

section Completeness

variable {tree : SyntaxTree} {text : List Char}

theorem splitArrow_plain (plain : IsPlain text) (rest : List Char) :
    splitArrow (text ++ rest) =
      (splitArrow rest).map fun parts => (text ++ parts.1, parts.2) := by
  induction text with
  | nil => simp
  | cons character text ih =>
    obtain ⟨clean, plainRest⟩ := List.forall_mem_cons.mp plain
    rw [List.cons_append, splitArrow, ih plainRest, Option.map_map]
    · rfl
    · intro arrowRest hyphen
      exact ((not_mark clean).2.2.2.2 hyphen).elim

theorem parseTerm_relation {name : List Char} (identifier : IsIdentifier name)
    (notThis : name ≠ "_this".toList) :
    parseTerm name = .ok (.computedUserset (String.ofList name)) := by
  have unsplit : splitArrow name = none := by
    have scanned := splitArrow_plain identifier.plain []
    rwa [List.append_nil] at scanned
  simp only [parseTerm, identifier.core.trim_eq, if_neg notThis, unsplit,
    validateIdentifier_ok.mpr identifier]
  rfl

theorem parseTerm_arrow {tuple left right computed : List Char}
    (paddedLeft : IsPadding left) (paddedRight : IsPadding right)
    (validTuple : IsIdentifier tuple) (validComputed : IsIdentifier computed) :
    parseTerm (tuple ++ left ++ '-' :: '>' :: (right ++ computed)) =
      .ok (.tupleToUserset (String.ofList tuple) (String.ofList computed)) := by
  have whole := (arrow_core validTuple validComputed left right).trim_eq
  have first : trim (tuple ++ left) = tuple := trim_core isPadding_nil paddedLeft validTuple.core
  have second : trim (right ++ computed) = computed := by
    have trimmed := trim_core paddedRight isPadding_nil validComputed.core
    simpa using trimmed
  have notThis : tuple ++ left ++ '-' :: '>' :: (right ++ computed) ≠ "_this".toList := by
    intro same
    have hyphen : '-' ∈ "_this".toList := by
      rw [← same]
      simp
    exact absurd hyphen (by decide)
  simp only [parseTerm, whole, if_neg notThis,
    splitArrow_plain (validTuple.plain.append paddedLeft.plain), splitArrow, Option.map_some,
    List.append_nil, first, second,
    if_neg validTuple.ne_nil, if_neg validComputed.ne_nil, validateIdentifier_ok.mpr validTuple,
    validateIdentifier_ok.mpr validComputed]
  rfl


theorem Generates.ne_nil {kind : SyntaxKind}
    (generates : Generates kind tree text) : text ≠ [] := by
  obtain ⟨before, core, after, _, _, isCore, rfl, _⟩ := generates.core
  obtain ⟨character, rest, rfl, _⟩ := isCore.first
  simp

/-- A parenthesis that opens a text closes before anything that follows it. -/
theorem Generates.closesAtEnd_open {kind : SyntaxKind}
    (generates : Generates kind tree text) (opened : text.head? = some '(')
    {rest : List Char} (more : rest ≠ []) : closesAtEnd (text ++ rest) 0 = false := by
  induction generates generalizing rest with
  | this before =>
    obtain rfl := before.eq_nil_of_head (by decide) opened
    exact absurd opened (by simp)
  | relation before _ identifier =>
    obtain rfl := before.eq_nil_of_head (by decide) opened
    exact (identifier.head_ne (by decide) opened).elim
  | arrow before _ _ _ tuple =>
    obtain rfl := before.eq_nil_of_head (by decide) opened
    simp only [List.nil_append, List.append_assoc] at opened
    exact (tuple.head_ne (by decide) opened).elim
  | parenthesized before _ inner =>
    obtain rfl := before.eq_nil_of_head (by decide) opened
    simp only [List.nil_append, List.cons_append, List.append_assoc]
    rw [closesAtEnd, inner.closesAtEnd_append _ (by decide), closesAtEnd,
      if_pos ⟨by decide, by simp [more]⟩]
  | operand _ ih => exact ih opened more
  | binary operator before _ first _ =>
    have inFirst : _ := opened
    rw [List.head?_append_of_ne_nil _ before.ne_nil] at inFirst
    rw [List.append_assoc]
    exact first inFirst (by simp)

def nestingError : Error :=
  .invalidExpression "expression exceeds nesting limit of 128"

theorem findRightmostOperator_operand (generates : Generates .operand tree text) :
    findRightmostOperator text 0 0 none = none := by
  obtain ⟨found, scanned, kept, _⟩ :=
    generates.findRightmostOperator_append [] 0 (Int.le_refl 0) none
  rw [List.append_nil] at scanned
  rw [scanned, kept (.inr generates)]
  rfl

variable {right : SyntaxTree}

theorem Generates.binary_parts {left : SyntaxTree}
    (generates : Generates .expression (.binary operator left right) text) :
    ∃ first second, text = first ++ operator.symbol :: second ∧
      Generates .expression left first ∧ Generates .operand right second := by
  cases generates with
  | operand generates => cases generates
  | binary _ before after => exact ⟨_, _, rfl, before, after⟩

/-- The last operator of a chain outside parentheses is its outermost one. -/
theorem findRightmostOperator_binary {left : SyntaxTree} (before : Generates .expression left first)
    (after : Generates .operand right second) :
    findRightmostOperator (first ++ operator.symbol :: second) 0 0 none =
      some (first.length, operator.symbol) := by
  have notArrow : second.head? ≠ some '>' := by
    have apart := after.head_ne []
    rwa [List.append_nil] at apart
  obtain ⟨_, scanned, _⟩ := before.findRightmostOperator_append
    (operator.symbol :: second) 0 (Int.le_refl 0) none
  obtain ⟨found, passed, kept, _⟩ := after.findRightmostOperator_append []
    (0 + first.length + 1) (Int.le_refl 0) (some (0 + first.length, operator.symbol))
  rw [List.append_nil] at passed
  rw [scanned, findRightmostOperator_symbol _ _ _ _ _ notArrow, if_pos rfl,
    passed, kept (.inr after), findRightmostOperator, Nat.zero_add]

theorem applyOperator_symbol (operator : BinaryOperator) (left right : SyntaxTree) :
    applyOperator operator.symbol left.expression right.expression =
      (SyntaxTree.binary operator left right).expression := by
  cases operator <;> rfl

theorem Generates.parseTerm_trim (generates : Generates .operand tree text)
    (term : ∀ inner, tree ≠ .parenthesized inner) :
    (trim text).head? ≠ some '(' ∧
      parseTerm (trim text) = .ok tree.expression ∧ tree.levels = 1 := by
  cases generates with
  | this before after =>
    rw [trim_core before after this_core]
    exact ⟨by decide, rfl, rfl⟩
  | relation before after identifier notThis =>
    have notOpen := @IsIdentifier.head_ne '(' _ [] identifier (by decide)
    rw [List.append_nil] at notOpen
    rw [trim_core before after identifier.core]
    exact ⟨notOpen, parseTerm_relation identifier notThis, rfl⟩
  | @arrow _ tupleRelation left right computedRelation _ before paddedLeft
      paddedRight after tuple computed =>
    rw [trim_core before after (arrow_core tuple computed left right)]
    refine ⟨?_, parseTerm_arrow paddedLeft paddedRight tuple computed, rfl⟩
    rw [List.append_assoc]
    exact tuple.head_ne (by decide)
  | parenthesized => exact (term _ rfl).elim

theorem Generates.parseBounded_term (generates : Generates .operand tree text)
    (term : ∀ inner, tree ≠ .parenthesized inner) (remaining : Nat) : parseBounded remaining text =
      if tree.levels ≤ remaining then .ok tree.expression
      else .error nestingError := by
  obtain ⟨notOpen, parsed, single⟩ := generates.parseTerm_trim term
  obtain ⟨alone, _⟩ := generates.trimmed
  cases remaining with
  | zero =>
    rw [if_neg (by omega)]
    rfl
  | succ remaining =>
    have unparenthesized : ¬ isFullyParenthesized (trim text) = true := by
      simp [isFullyParenthesized, notOpen]
    simp only [parseBounded, if_neg alone.ne_nil, if_neg unparenthesized,
      findRightmostOperator_operand alone, parsed]
    rw [if_pos (by omega)]

theorem isFullyParenthesized_enclosed {inner : List Char}
    (generates : Generates .expression tree inner) :
    isFullyParenthesized ('(' :: inner ++ [')']) = true := by
  have closed : closesAtEnd ('(' :: inner ++ [')']) 0 = true := by
    rw [List.cons_append, closesAtEnd, generates.closesAtEnd_append _ (by decide), closesAtEnd,
      if_neg (by simp), closesAtEnd]
  have last : ('(' :: inner ++ [')']).getLast? = some ')' := by
    rw [List.getLast?_append]
    rfl
  simp only [isFullyParenthesized, last, closed]
  rfl

theorem not_isFullyParenthesized_binary (before : Generates .expression tree first) :
    ¬ isFullyParenthesized (first ++ operator.symbol :: second) = true := by
  intro enclosed
  simp only [isFullyParenthesized, Bool.and_eq_true, decide_eq_true_eq] at enclosed
  obtain ⟨⟨opened, _⟩, closed⟩ := enclosed
  rw [List.head?_append_of_ne_nil _ before.ne_nil] at opened
  rw [before.closesAtEnd_open opened (List.cons_ne_nil _ _)] at closed
  cases closed

/-- A generated text is parsed to the expression of its tree if the tree is
within the bound, and is rejected for its nesting otherwise. -/
theorem Generates.parseBounded_eq (generates : Generates .expression tree text) (remaining : Nat) :
    parseBounded remaining text =
      if tree.levels ≤ remaining then .ok tree.expression
      else .error nestingError := by
  induction tree generalizing text remaining with
  | this | relation | arrow =>
    cases generates with
    | operand generates =>
      exact generates.parseBounded_term (fun _ => nofun) remaining
  | parenthesized inner ih =>
    cases generates with
    | operand generates =>
      cases remaining with
      | zero => rfl
      | succ remaining =>
        cases generates with
        | @parenthesized _ innerText _ _ before after generates =>
          have stripped : (('(' :: innerText ++ [')']).drop 1).dropLast =
                innerText := by
            simp
          simp only [parseBounded, trim_core before after (enclosed_core innerText),
            isFullyParenthesized_enclosed generates, if_true, stripped]
          rw [if_neg (by simp), ih generates]
          simp only [SyntaxTree.levels, SyntaxTree.expression, Nat.add_le_add_iff_right]
  | binary operator left right leftParses rightParses =>
    cases remaining with
    | zero => rfl
    | succ remaining =>
      obtain ⟨alone, _⟩ := generates.trimmed
      obtain ⟨first, second, shape, before, after⟩ := alone.binary_parts
      have present : first ++ operator.symbol :: second ≠ [] := by simp
      have behind : (first ++ operator.symbol :: second).drop (first.length + 1) = second := by
        simp
      simp only [parseBounded, shape, if_neg present,
        if_neg (not_isFullyParenthesized_binary before),
        findRightmostOperator_binary before after, List.take_left, behind,
        leftParses before, rightParses (.operand after), SyntaxTree.levels,
        Nat.add_le_add_iff_right, max_le_iff]
      by_cases leftFits : left.levels ≤ remaining
      · by_cases rightFits : right.levels ≤ remaining
        · rw [if_pos leftFits, if_pos rightFits,
            if_pos ⟨leftFits, rightFits⟩, ← applyOperator_symbol]
          rfl
        · rw [if_pos leftFits, if_neg rightFits, if_neg (fun both => rightFits both.2)]
          rfl
      · have beyond : ¬ (left.levels ≤ remaining ∧ right.levels ≤ remaining) :=
          fun both => leftFits both.1
        rw [if_neg leftFits, if_neg beyond]
        rfl

end Completeness

/-! ## Generating parsed texts -/

variable {found : Nat}

section Soundness

variable {text : List Char}

/-- A scan from a position meets an operator at the found place and none
behind it. -/
def IsLastOperator (text : List Char) (position found : Nat) (symbol : Char) :
    Prop :=
  ∃ operator : BinaryOperator, ∃ first second,
    operator.symbol = symbol ∧ text = first ++ symbol :: second ∧
      found = position + first.length ∧
        findRightmostOperator second (found + 1) 0 (some (found, symbol)) = some (found, symbol)

variable {symbol : Char}

theorem IsLastOperator.cons {position : Nat}
    (last : IsLastOperator text (position + 1) found symbol) (character : Char) :
    IsLastOperator (character :: text) position found symbol := by
  obtain ⟨operator, first, second, kind, rfl, place, silent⟩ := last
  refine ⟨operator, character :: first, second, kind, rfl, ?_, silent⟩
  rw [place, List.length_cons]
  omega

theorem findRightmostOperator_found {position : Nat} {rightmost : Option (Nat × Char)}
    (scanned : findRightmostOperator text position depth rightmost = some (found, symbol)) :
    rightmost = some (found, symbol) ∨
      IsLastOperator text position found symbol := by
  induction text generalizing position depth rightmost with
  | nil => exact .inl scanned
  | cons character rest ih =>
    by_cases opened : character = '('
    · subst opened
      rw [findRightmostOperator] at scanned
      exact (ih scanned).imp_right fun last => last.cons '('
    by_cases closed : character = ')'
    · subst closed
      rw [findRightmostOperator] at scanned
      exact (ih scanned).imp_right fun last => last.cons ')'
    rw [findRightmostOperator_cons _ _ _ _ opened closed] at scanned
    split at scanned
    · rename_i counts
      rcases ih scanned with same | last
      · obtain ⟨rfl, rfl⟩ := Prod.mk.inj (Option.some.inj same)
        simp only [Bool.and_eq_true, Bool.or_eq_true, decide_eq_true_eq] at counts
        obtain ⟨marked, rfl⟩ := counts
        have operator : ∃ operator : BinaryOperator, operator.symbol = character := by
          rcases marked with (rfl | rfl) | ⟨rfl, _⟩
          · exact ⟨.union, rfl⟩
          · exact ⟨.intersection, rfl⟩
          · exact ⟨.difference, rfl⟩
        obtain ⟨operator, kind⟩ := operator
        exact .inr ⟨operator, [], rest, kind, rfl, rfl, scanned⟩
      · exact .inr (last.cons character)
    · exact (ih scanned).imp_right fun last => last.cons character

theorem Generates.operand_of_silent {tree : SyntaxTree}
    (generates : Generates .expression tree text)
    (silent : findRightmostOperator text (found + 1) 0 (some (found, symbol)) =
      some (found, symbol)) : Generates .operand tree text := by
  obtain ⟨best, scanned, _, met⟩ := generates.findRightmostOperator_append []
    (found + 1) (Int.le_refl 0) (some (found, symbol))
  rcases met with operand | inside | ⟨later, operator, rfl, behind⟩
  · exact operand
  · exact (inside rfl).elim
  · rw [List.append_nil, silent, findRightmostOperator] at scanned
    obtain ⟨same, _⟩ := Prod.mk.inj (Option.some.inj scanned)
    omega

theorem splitArrow_eq_some (found : splitArrow text = some (first, second)) :
    text = first ++ '-' :: '>' :: second := by
  fun_induction splitArrow text generalizing first with
  | case1 rest =>
    cases found
    rfl
  | case2 character rest _ ih =>
    obtain ⟨parts, later, same⟩ := Option.map_eq_some_iff.mp found
    obtain ⟨rfl, rfl⟩ := Prod.mk.inj same
    rw [ih later]
    rfl
  | case3 => cases found

variable {expression : RelationExpression}

theorem generates_of_parseTerm (parsed : parseTerm text = .ok expression) :
    ∃ tree, Generates .operand tree (trim text) ∧ tree.levels = 1 ∧
      tree.expression = expression := by
  simp only [parseTerm] at parsed
  split at parsed
  · rename_i isThis
    cases parsed
    refine ⟨.this, ?_, rfl, rfl⟩
    rw [isThis]
    exact .this isPadding_nil isPadding_nil
  · rename_i notThis
    split at parsed
    · rename_i left right found
      obtain ⟨_, parsed⟩ := ifError_ok parsed
      obtain ⟨_, parsed⟩ := ifError_ok parsed
      obtain ⟨_, tuple, parsed⟩ := exceptBind_ok parsed
      obtain ⟨_, computed, parsed⟩ := exceptBind_ok parsed
      cases parsed
      obtain ⟨before, inner, paddedBefore, paddedInner, leftShape⟩ := exists_padding left
      obtain ⟨outer, after, paddedOuter, paddedAfter, rightShape⟩ := exists_padding right
      refine ⟨.arrow (trim left) (trim right), ?_, rfl, rfl⟩
      have shape : trim text = before ++ (trim left ++ inner ++
          '-' :: '>' :: (outer ++ trim right) ++ after) := by
        apply (splitArrow_eq_some found).trans
        conv_lhs => rw [leftShape, rightShape]
        simp
      rw [shape]
      exact .arrow paddedBefore paddedInner paddedOuter paddedAfter
        (validateIdentifier_ok.mp tuple) (validateIdentifier_ok.mp computed)
    · obtain ⟨_, valid, parsed⟩ := exceptBind_ok parsed
      cases parsed
      refine ⟨.relation (trim text), ?_, rfl, rfl⟩
      have generated := Generates.relation isPadding_nil isPadding_nil
        (validateIdentifier_ok.mp valid) notThis
      simpa using generated

theorem eq_enclosed {input : List Char} (opened : input.head? = some '(')
    (closed : input.getLast? = some ')') : input = '(' :: (input.drop 1).dropLast ++ [')'] := by
  match input, opened, closed with
  | [_], opened, closed =>
    cases opened
    exact absurd closed (by decide)
  | _ :: second :: rest, opened, closed =>
    cases opened
    rw [List.getLast?_cons_cons] at closed
    have joined := List.dropLast_append_getLast? ')' closed
    rw [List.drop_one, List.tail_cons, List.cons_append, joined]

theorem generates_of_parseBounded {remaining : Nat}
    (parsed : parseBounded remaining text = .ok expression) :
    ∃ tree, Generates .expression tree text ∧ tree.levels ≤ remaining ∧
      tree.expression = expression := by
  induction remaining generalizing text expression with
  | zero => cases parsed
  | succ remaining ih =>
    simp only [parseBounded] at parsed
    obtain ⟨_, parsed⟩ := ifError_ok parsed
    split at parsed
    · rename_i enclosed
      obtain ⟨inner, generates, within, rfl⟩ := ih parsed
      refine ⟨.parenthesized inner, .of_trim (.operand ?_), Nat.succ_le_succ within, rfl⟩
      simp only [isFullyParenthesized, Bool.and_eq_true, decide_eq_true_eq] at enclosed
      have generated := Generates.parenthesized isPadding_nil isPadding_nil generates
      rw [List.nil_append, List.append_nil, ← eq_enclosed enclosed.1.1 enclosed.1.2] at generated
      exact generated
    · split at parsed
      · rename_i position symbol found
        obtain ⟨left, leftParsed, parsed⟩ := exceptBind_ok parsed
        obtain ⟨right, rightParsed, parsed⟩ := exceptBind_ok parsed
        cases parsed
        rcases findRightmostOperator_found found with none |
          ⟨operator, first, second, rfl, shape, place, silent⟩
        · cases none
        · rw [Nat.zero_add] at place
          subst place
          rw [shape, List.take_left] at leftParsed
          have behind : (first ++ operator.symbol :: second).drop
              (first.length + 1) = second := by
            simp
          rw [shape, behind] at rightParsed
          obtain ⟨leftTree, before, leftWithin, rfl⟩ := ih leftParsed
          obtain ⟨rightTree, after, rightWithin, rfl⟩ := ih rightParsed
          refine ⟨.binary operator leftTree rightTree, .of_trim ?_, ?_,
            (applyOperator_symbol operator leftTree rightTree).symm⟩
          · rw [shape]
            exact .binary operator before (after.operand_of_silent silent)
          · exact Nat.succ_le_succ (max_le leftWithin rightWithin)
      · obtain ⟨tree, generates, single, rfl⟩ := generates_of_parseTerm parsed
        exact ⟨tree, .of_trim (.of_trim (.operand generates)), by omega, rfl⟩

end Soundness

/-- A text is parsed to an expression exactly when the grammar generates it
from a tree of that expression with at most 128 levels. -/
theorem RelationExpression.parse_eq_ok_iff (input : String) (expression : RelationExpression) :
    RelationExpression.parse input = .ok expression ↔
      ∃ tree, Generates .expression tree input.toList ∧ tree.levels ≤ 128 ∧
        tree.expression = expression := by
  constructor
  · intro parsed
    exact generates_of_parseBounded parsed
  · rintro ⟨tree, generates, within, rfl⟩
    unfold RelationExpression.parse
    rw [generates.parseBounded_eq, if_pos within]

/-! ## Long chains -/

/-- One relation, and as many times an operator and the relation again. -/
def chainTree (operator : BinaryOperator) : Nat → SyntaxTree
  | 0 => .relation ['r']
  | count + 1 => .binary operator (chainTree operator count) (.relation ['r'])

def chainText (operator : BinaryOperator) : Nat → List Char
  | 0 => ['r']
  | count + 1 => chainText operator count ++ operator.symbol :: ['r']

theorem generates_relation : Generates .operand (.relation ['r']) ['r'] := by
  have identifier : IsIdentifier ['r'] := ⟨⟨'r', [], rfl, .inl (by decide)⟩,
    List.forall_mem_singleton.mpr (by decide)⟩
  exact .relation isPadding_nil isPadding_nil identifier (by decide)

theorem generates_chain (operator : BinaryOperator) (count : Nat) :
    Generates .expression (chainTree operator count) (chainText operator count) := by
  induction count with
  | zero => exact .operand generates_relation
  | succ count ih =>
    exact .binary operator ih generates_relation

theorem levels_chain (operator : BinaryOperator) (count : Nat) :
    (chainTree operator count).levels = count + 1 := by
  induction count with
  | zero => rfl
  | succ count ih =>
    simp [chainTree, SyntaxTree.levels, ih]

theorem parentheses_chain (operator : BinaryOperator) (count : Nat) :
    (chainTree operator count).parentheses = 0 := by
  induction count with
  | zero => rfl
  | succ count ih =>
    simp [chainTree, SyntaxTree.parentheses, ih]

/-- A flat union of 129 relations has no parentheses and is rejected for its
nesting. -/
theorem flat_union_exceeds_nesting :
    Generates .expression (chainTree .union 128) (chainText .union 128) ∧
      (chainTree .union 128).parentheses = 0 ∧
      RelationExpression.parse (String.ofList (chainText .union 128)) =
        .error nestingError := by
  have generates := generates_chain .union 128
  refine ⟨generates, parentheses_chain .union 128, ?_⟩
  unfold RelationExpression.parse
  rw [String.toList_ofList, generates.parseBounded_eq, levels_chain, if_neg (by decide)]

end VeraHub.Zanzibar

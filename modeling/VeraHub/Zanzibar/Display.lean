import VeraHub.Zanzibar.Grammar

/-!
# Printing relation expressions

A printed union, intersection or difference stands in parentheses.  What the
parser returned is printed to a text of the grammar, whose tree has the same
expression; the parentheses count as levels, though, so the text of a deeply
nested expression may be beyond the bound of the parser.
-/

namespace VeraHub.Zanzibar

variable {operandsOf : RelationExpression → List RelationExpression}
  {rest : List RelationExpression}

namespace RelationExpression

def joinParts (separator : List Char) : List (List Char) → List Char
  | [] => []
  | first :: rest => first ++ rest.flatMap (separator ++ ·)

def displayCharacters : RelationExpression → List Char
  | .this => "_this".toList
  | .computedUserset relation => relation.toList
  | .tupleToUserset tupleRelation computedRelation =>
    tupleRelation.toList ++ "->".toList ++ computedRelation.toList
  | .union exprs => '(' :: joinParts " + ".toList (displayParts exprs) ++ [')']
  | .intersection exprs =>
    '(' :: joinParts " & ".toList (displayParts exprs) ++ [')']
  | .difference base subtract =>
    '(' :: (base.displayCharacters ++ " - ".toList ++ subtract.displayCharacters) ++ [')']
where
  displayParts : List RelationExpression → List (List Char)
    | [] => []
    | expression :: rest =>
      expression.displayCharacters :: displayParts rest

def display (expression : RelationExpression) : String :=
  String.ofList expression.displayCharacters

/-! ## The tree of a printed expression -/

def chainOf (operator : BinaryOperator) : List SyntaxTree → SyntaxTree
  | [] => .this
  | first :: rest => rest.foldl (.binary operator) first

def printed : RelationExpression → SyntaxTree
  | .this => .this
  | .computedUserset relation => .relation relation.toList
  | .tupleToUserset tupleRelation computedRelation =>
    .arrow tupleRelation.toList computedRelation.toList
  | .union exprs => .parenthesized (chainOf .union (printedOperands exprs))
  | .intersection exprs =>
    .parenthesized (chainOf .intersection (printedOperands exprs))
  | .difference base subtract =>
    .parenthesized (.binary .difference base.printed subtract.printed)
where
  printedOperands : List RelationExpression → List SyntaxTree
    | [] => []
    | expression :: rest => expression.printed :: printedOperands rest

theorem displayParts_eq (exprs : List RelationExpression) :
    displayCharacters.displayParts exprs = exprs.map displayCharacters := by
  induction exprs with
  | nil => rfl
  | cons expression rest ih =>
    rw [displayCharacters.displayParts, ih, List.map_cons]

theorem printedOperands_eq (exprs : List RelationExpression) :
    printed.printedOperands exprs = exprs.map printed := by
  induction exprs with
  | nil => rfl
  | cons expression rest ih =>
    rw [printed.printedOperands, ih, List.map_cons]

/-- What parsing returns: names are identifiers, and the operands of a union or
an intersection, at least two, are joined with it if they are of its kind. -/
inductive Joined : RelationExpression → Prop where
  | this : Joined .this
  | computedUserset {relation : String} (identifier : IsIdentifier relation.toList)
      (notThis : relation.toList ≠ "_this".toList) : Joined (.computedUserset relation)
  | tupleToUserset {tupleRelation computedRelation : String}
      (tuple : IsIdentifier tupleRelation.toList)
      (computed : IsIdentifier computedRelation.toList) :
      Joined (.tupleToUserset tupleRelation computedRelation)
  | union {first second : RelationExpression} {rest : List RelationExpression}
      (operands : ∀ expression ∈ first :: second :: rest, Joined expression)
      (single : ∀ expression ∈ first :: second :: rest, unionOperands expression = [expression]) :
      Joined (.union (first :: second :: rest))
  | intersection {first second : RelationExpression} {rest : List RelationExpression}
      (operands : ∀ expression ∈ first :: second :: rest, Joined expression)
      (single : ∀ expression ∈ first :: second :: rest,
        intersectionOperands expression = [expression]) :
      Joined (.intersection (first :: second :: rest))
  | difference {base subtract : RelationExpression} (left : Joined base)
      (right : Joined subtract) : Joined (.difference base subtract)

namespace Joined

variable {expression : RelationExpression}

/-- All operands are joined and stand for themselves. -/
def OperandsJoined (operandsOf : RelationExpression → List RelationExpression)
    (exprs : List RelationExpression) : Prop :=
  exprs ≠ [] ∧ ∀ operand ∈ exprs, Joined operand ∧ operandsOf operand = [operand]

theorem alone (joined : Joined expression) (single : operandsOf expression = [expression]) :
    OperandsJoined operandsOf (operandsOf expression) := by
  rw [single]
  refine ⟨List.cons_ne_nil _ _, ?_⟩
  intro operand member
  rw [List.mem_singleton.mp member]
  exact ⟨joined, single⟩

theorem union_operands (joined : Joined expression) :
    OperandsJoined unionOperands (unionOperands expression) := by
  cases joined with
  | union operands single =>
    exact ⟨List.cons_ne_nil _ _, fun operand member =>
      ⟨operands operand member, single operand member⟩⟩
  | this => exact alone .this rfl
  | computedUserset identifier notThis =>
    exact alone (.computedUserset identifier notThis) rfl
  | tupleToUserset tuple computed =>
    exact alone (.tupleToUserset tuple computed) rfl
  | intersection operands single =>
    exact alone (.intersection operands single) rfl
  | difference left right => exact alone (.difference left right) rfl

theorem intersection_operands (joined : Joined expression) :
    OperandsJoined intersectionOperands (intersectionOperands expression) := by
  cases joined with
  | intersection operands single =>
    exact ⟨List.cons_ne_nil _ _, fun operand member =>
      ⟨operands operand member, single operand member⟩⟩
  | this => exact alone .this rfl
  | computedUserset identifier notThis =>
    exact alone (.computedUserset identifier notThis) rfl
  | tupleToUserset tuple computed =>
    exact alone (.tupleToUserset tuple computed) rfl
  | union operands single => exact alone (.union operands single) rfl
  | difference left right => exact alone (.difference left right) rfl

theorem OperandsJoined.append
    {first second : List RelationExpression} (left : OperandsJoined operandsOf first)
    (right : OperandsJoined operandsOf second) :
    ∃ head next rest, first ++ second = head :: next :: rest ∧
      (∀ operand ∈ head :: next :: rest, Joined operand) ∧
        ∀ operand ∈ head :: next :: rest, operandsOf operand = [operand] := by
  have all : ∀ operand ∈ first ++ second, Joined operand ∧ operandsOf operand = [operand] :=
    List.forall_mem_append.mpr ⟨left.2, right.2⟩
  have shape : ∃ head next rest, first ++ second = head :: next :: rest := by
    match first, second, left.1, right.1 with
    | [head], next :: rest, _, _ => exact ⟨head, next, rest, rfl⟩
    | head :: next :: rest, second, _, _ =>
      exact ⟨head, next, rest ++ second, rfl⟩
  obtain ⟨head, next, rest, shape⟩ := shape
  rw [shape] at all
  exact ⟨head, next, rest, shape, fun operand member =>
    (all operand member).1, fun operand member => (all operand member).2⟩

variable {right left : RelationExpression}

theorem mergeUnion (before : Joined left) (after : Joined right) :
    Joined (mergeUnion left right) := by
  obtain ⟨head, next, rest, shape, operands, single⟩ :=
    before.union_operands.append after.union_operands
  rw [Zanzibar.mergeUnion, shape]
  exact .union operands single

theorem mergeIntersection (before : Joined left) (after : Joined right) :
    Joined (mergeIntersection left right) := by
  obtain ⟨head, next, rest, shape, operands, single⟩ :=
    before.intersection_operands.append after.intersection_operands
  rw [Zanzibar.mergeIntersection, shape]
  exact .intersection operands single

end Joined

theorem joined_of_generates {kind : SyntaxKind} {tree : SyntaxTree}
    {text : List Char} (generates : Generates kind tree text) :
    Joined tree.expression := by
  induction generates with
  | this => exact .this
  | relation _ _ identifier notThis =>
    exact .computedUserset (by rwa [String.toList_ofList]) (by rwa [String.toList_ofList])
  | arrow _ _ _ _ tuple computed =>
    exact .tupleToUserset (by rwa [String.toList_ofList]) (by rwa [String.toList_ofList])
  | parenthesized _ _ _ ih => exact ih
  | operand _ ih => exact ih
  | binary operator _ _ left right =>
    cases operator with
    | union => exact left.mergeUnion right
    | intersection => exact left.mergeIntersection right
    | difference => exact .difference left right

/-! ## Printing and reading -/

theorem generates_chainOf (operator : BinaryOperator) {tree : SyntaxTree}
    {text : List Char} (first : Generates .expression tree text)
    (operands : ∀ expression ∈ rest,
      Generates .operand expression.printed expression.displayCharacters) :
    Generates .expression ((rest.map printed).foldl (.binary operator) tree)
      (text ++ (rest.map displayCharacters).flatMap ([' ', operator.symbol, ' '] ++ ·)) := by
  have space : IsPadding [' '] := by
    intro character member
    rw [List.mem_singleton.mp member]
    decide
  induction rest generalizing tree text with
  | nil => simpa using first
  | cons expression rest ih =>
    have next := operands expression (List.mem_cons_self ..)
    have joined := Generates.binary operator (first.pad_right space) (next.pad_left space)
    have later := ih joined fun other member =>
      operands other (List.mem_cons_of_mem _ member)
    simpa using later

variable {expression : RelationExpression}

theorem Joined.generates (joined : Joined expression) :
    Generates .operand expression.printed expression.displayCharacters := by
  have empty := isPadding_nil
  have space : IsPadding [' '] := by
    intro character member
    rw [List.mem_singleton.mp member]
    decide
  have enclosed : ∀ {tree : SyntaxTree} {text : List Char},
      Generates .expression tree text →
        Generates .operand (.parenthesized tree) ('(' :: text ++ [')']) := by
    intro tree text generates
    have whole := Generates.parenthesized empty empty generates
    rwa [List.nil_append, List.append_nil] at whole
  induction joined with
  | this => exact .this empty empty
  | computedUserset identifier notThis =>
    have whole := Generates.relation empty empty identifier notThis
    rwa [List.nil_append, List.append_nil] at whole
  | tupleToUserset tuple computed =>
    have whole := Generates.arrow empty empty empty empty tuple computed
    rw [printed, displayCharacters]
    simpa using whole
  | @union first second rest _ _ operands =>
    rw [printed, displayCharacters, printedOperands_eq, displayParts_eq]
    apply enclosed
    exact generates_chainOf .union (.operand (operands first (List.mem_cons_self ..)))
      fun expression member =>
        operands expression (List.mem_cons_of_mem _ member)
  | @intersection first second rest _ _ operands =>
    rw [printed, displayCharacters, printedOperands_eq, displayParts_eq]
    apply enclosed
    exact generates_chainOf .intersection (.operand (operands first (List.mem_cons_self ..)))
      fun expression member =>
        operands expression (List.mem_cons_of_mem _ member)
  | difference _ _ base subtract =>
    rw [printed, displayCharacters]
    apply enclosed
    have whole := Generates.binary .difference
      ((Generates.operand base).pad_right space) (subtract.pad_left space)
    simpa [BinaryOperator.symbol] using whole

variable {wrap : List RelationExpression → RelationExpression}

theorem foldl_merge (unwrap : ∀ exprs, operandsOf (wrap exprs) = exprs)
    (first second : RelationExpression)
    (single : ∀ expression ∈ first :: second :: rest, operandsOf expression = [expression]) :
    (second :: rest).foldl (fun left right => wrap (operandsOf left ++ operandsOf right)) first =
      wrap (first :: second :: rest) := by
  have onward : ∀ (rest exprs : List RelationExpression),
      (∀ expression ∈ rest, operandsOf expression = [expression]) →
        rest.foldl (fun left right => wrap (operandsOf left ++ operandsOf right))
            (wrap exprs) = wrap (exprs ++ rest) := by
    intro rest
    induction rest with
    | nil =>
      intro exprs _
      rw [List.append_nil]
      rfl
    | cons expression rest ih =>
      intro exprs single
      have later := ih (exprs ++ [expression])
        fun other member => single other (List.mem_cons_of_mem _ member)
      rw [List.foldl_cons, unwrap, single expression (List.mem_cons_self ..),
        later, List.append_assoc]
      rfl
  rw [List.foldl_cons, single first (List.mem_cons_self ..), single second (by simp)]
  exact onward rest [first, second] fun expression member =>
    single expression (by simp [member])

theorem foldl_binary_expression (operator : BinaryOperator)
    (rest : List SyntaxTree) (tree : SyntaxTree) :
    (rest.foldl (.binary operator) tree).expression =
      (rest.map SyntaxTree.expression).foldl (applyOperator operator.symbol) tree.expression := by
  induction rest generalizing tree with
  | nil => rfl
  | cons next rest ih =>
    rw [List.foldl_cons, ih, List.map_cons, List.foldl_cons, applyOperator_symbol]

theorem chainOf_expression {operator : BinaryOperator}
    (unwrap : ∀ exprs, operandsOf (wrap exprs) = exprs)
    (merges : applyOperator operator.symbol =
      fun left right => wrap (operandsOf left ++ operandsOf right))
    {first second : RelationExpression}
    (single : ∀ expression ∈ first :: second :: rest, operandsOf expression = [expression])
    (restored : ∀ expression ∈ first :: second :: rest,
      expression.printed.expression = expression) :
    (chainOf operator ((first :: second :: rest).map printed)).expression =
      wrap (first :: second :: rest) := by
  have same : ((second :: rest).map printed).map SyntaxTree.expression = second :: rest := by
    rw [List.map_map]
    conv_rhs => rw [← List.map_id (second :: rest)]
    apply List.map_congr_left
    intro expression member
    exact restored expression (List.mem_cons_of_mem _ member)
  rw [List.map_cons, chainOf, foldl_binary_expression, same, merges,
    restored first (List.mem_cons_self ..)]
  exact foldl_merge unwrap first second single

theorem Joined.printed_expression (joined : Joined expression) :
    expression.printed.expression = expression := by
  induction joined with
  | this => rfl
  | computedUserset => simp [printed, SyntaxTree.expression]
  | tupleToUserset => simp [printed, SyntaxTree.expression]
  | union _ single restored =>
    rw [printed, SyntaxTree.expression, printedOperands_eq]
    exact chainOf_expression (fun _ => rfl) rfl single restored
  | intersection _ single restored =>
    rw [printed, SyntaxTree.expression, printedOperands_eq]
    exact chainOf_expression (fun _ => rfl) rfl single restored
  | difference _ _ base subtract =>
    rw [printed, SyntaxTree.expression, SyntaxTree.expression, base, subtract]

theorem Joined.parse_display (joined : Joined expression) :
    RelationExpression.parse expression.display =
      if expression.printed.levels ≤ 128 then .ok expression
      else .error nestingError := by
  unfold RelationExpression.parse display
  rw [String.toList_ofList, (Generates.operand joined.generates).parseBounded_eq,
    joined.printed_expression]

/-- What was parsed is printed to a text that parses to it again, exactly when
the printed text is within the nesting bound. -/
theorem parse_display_iff (input : String) (expression : RelationExpression)
    (parsed : RelationExpression.parse input = .ok expression) :
    RelationExpression.parse expression.display = .ok expression ↔
      expression.printed.levels ≤ 128 := by
  obtain ⟨tree, generates, _, rfl⟩ := generates_of_parseBounded parsed
  have reread := (joined_of_generates generates).parse_display
  by_cases fits : tree.expression.printed.levels ≤ 128
  · rw [reread, if_pos fits]
    exact ⟨fun _ => fits, fun _ => rfl⟩
  · rw [reread, if_neg fits]
    exact ⟨fun same => (nomatch same), fun within => (fits within).elim⟩

theorem union_and_difference_are_reread :
    RelationExpression.parse "(reader + owner) - banned" =
        .ok (.difference (.union [.computedUserset "reader", .computedUserset "owner"])
          (.computedUserset "banned")) ∧
      RelationExpression.parse "((reader + owner) - banned)" =
        .ok (.difference (.union [.computedUserset "reader", .computedUserset "owner"])
          (.computedUserset "banned")) := by
  have parsed : RelationExpression.parse "(reader + owner) - banned" =
      .ok (.difference (.union [.computedUserset "reader", .computedUserset "owner"])
        (.computedUserset "banned")) := by
    rfl
  exact ⟨parsed, (parse_display_iff _ _ parsed).mpr (by decide +kernel)⟩

theorem levels_printed_difference (count : Nat) :
    (chainTree .difference count).expression.printed.levels = 2 * count + 1 := by
  induction count with
  | zero => rfl
  | succ count ih =>
    rw [chainTree, SyntaxTree.expression, printed, SyntaxTree.levels, SyntaxTree.levels, ih]
    have single : (SyntaxTree.relation ['r']).expression.printed.levels =
        1 := rfl
    rw [single]
    omega

/-- A difference of 65 relations is parsed, and what is printed of it is
not. -/
theorem long_difference_is_not_reread :
    RelationExpression.parse (String.ofList (chainText .difference 64)) =
        .ok (chainTree .difference 64).expression ∧
      RelationExpression.parse (chainTree .difference 64).expression.display =
        .error nestingError := by
  have generates := generates_chain .difference 64
  constructor
  · unfold RelationExpression.parse
    rw [String.toList_ofList, generates.parseBounded_eq, levels_chain, if_pos (by decide)]
  · rw [(joined_of_generates generates).parse_display,
      levels_printed_difference, if_neg (by decide)]

end RelationExpression

end VeraHub.Zanzibar

import VeraHub.Zanzibar.Types

/-!
# Reading and checking relation expressions

Policies write their permissions as text.  The operators have equal precedence
and group to the left; parentheses override.  A policy then checks that its
expressions name relations it declares.
-/

namespace VeraHub.Zanzibar

/-! ## Text -/

def isWhiteSpace (character : Char) : Bool :=
  let code := character.toNat
  (9 ≤ code && code ≤ 13) || code == 0x20 || code == 0x85 || code == 0xA0 ||
    code == 0x1680 || (0x2000 ≤ code && code ≤ 0x200A) || code == 0x2028 ||
      code == 0x2029 || code == 0x202F || code == 0x205F || code == 0x3000

def trim (text : List Char) : List Char :=
  ((text.dropWhile isWhiteSpace).reverse.dropWhile isWhiteSpace).reverse

def splitArrow : List Char → Option (List Char × List Char)
  | '-' :: '>' :: rest => some ([], rest)
  | character :: rest =>
    (splitArrow rest).map fun parts => (character :: parts.1, parts.2)
  | [] => none

def isAsciiAlphabetic (character : Char) : Bool :=
  ('a' ≤ character && character ≤ 'z') || ('A' ≤ character && character ≤ 'Z')

def isAsciiAlphanumeric (character : Char) : Bool :=
  isAsciiAlphabetic character || ('0' ≤ character && character ≤ '9')

/-! ## Parsing -/

/-- Scan from a position: the outermost level must close only at the end. -/
def closesAtEnd : List Char → Int → Bool
  | [], _ => true
  | '(' :: rest, depth => closesAtEnd rest (depth + 1)
  | ')' :: rest, depth =>
    if depth - 1 = 0 ∧ rest ≠ [] then false
    else closesAtEnd rest (depth - 1)
  | _ :: rest, depth => closesAtEnd rest depth

def isFullyParenthesized (input : List Char) : Bool :=
  input.head? = some '(' && input.getLast? = some ')' && closesAtEnd input 0

/-- The last operator outside parentheses, where `->` is not an operator. -/
def findRightmostOperator : List Char → Nat → Int → Option (Nat × Char) → Option (Nat × Char)
  | [], _, _, rightmost => rightmost
  | '(' :: rest, position, depth, rightmost =>
    findRightmostOperator rest (position + 1) (depth + 1) rightmost
  | ')' :: rest, position, depth, rightmost =>
    findRightmostOperator rest (position + 1) (depth - 1) rightmost
  | character :: rest, position, depth, rightmost =>
    let operator :=
      (character = '+' || character = '&' ||
        (character = '-' && rest.head? ≠ some '>')) && depth = 0
    findRightmostOperator rest (position + 1) depth
      (if operator then some (position, character) else rightmost)

def validateIdentifier (text : List Char) : Except Error Unit :=
  match text with
  | [] => .error (.invalidExpression "empty identifier")
  | first :: _ =>
    if !isAsciiAlphabetic first && first ≠ '_' then
      .error (.invalidExpression
        ("identifier must start with letter or underscore: '" ++ String.ofList text ++ "'"))
    else
      match text.find? fun character =>
          !isAsciiAlphanumeric character && character ≠ '_' with
      | some character =>
        .error (.invalidExpression
          ("invalid character '" ++ character.toString ++
            "' in identifier: '" ++ String.ofList text ++ "'"))
      | none => .ok ()

def parseTerm (input : List Char) : Except Error RelationExpression :=
  let input := trim input
  if input = "_this".toList then
    .ok .this
  else
    match splitArrow input with
    | some (left, right) => do
        let tupleRelation := trim left
        let computedRelation := trim right
        if tupleRelation = [] then
          .error (.invalidExpression "empty tuple relation in TupleToUserset")
        else if computedRelation = [] then
          .error (.invalidExpression "empty computed relation in TupleToUserset")
        else
          validateIdentifier tupleRelation
          validateIdentifier computedRelation
          .ok (.tupleToUserset (String.ofList tupleRelation) (String.ofList computedRelation))
    | none => do
        validateIdentifier input
        .ok (.computedUserset (String.ofList input))

/-- The operands of a union, or the expression itself. -/
def unionOperands : RelationExpression → List RelationExpression
  | .union exprs => exprs
  | other => [other]

/-- The operands of an intersection, or the expression itself. -/
def intersectionOperands : RelationExpression → List RelationExpression
  | .intersection exprs => exprs
  | other => [other]

def mergeUnion (left right : RelationExpression) : RelationExpression :=
  .union (unionOperands left ++ unionOperands right)

def mergeIntersection (left right : RelationExpression) :
    RelationExpression :=
  .intersection (intersectionOperands left ++ intersectionOperands right)

def applyOperator (operator : Char) (left right : RelationExpression) :
    RelationExpression :=
  if operator = '+' then mergeUnion left right
  else if operator = '&' then mergeIntersection left right
  else .difference left right

def parseBounded : Nat → List Char → Except Error RelationExpression
  | 0, _ =>
    .error (.invalidExpression "expression exceeds nesting limit of 128")
  | remaining + 1, text =>
    let input := trim text
    if input = [] then
      .error (.invalidExpression "empty expression")
    else if isFullyParenthesized input then
      parseBounded remaining ((input.drop 1).dropLast)
    else
      match findRightmostOperator input 0 0 none with
      | some (position, operator) => do
          let left ← parseBounded remaining (input.take position)
          let right ← parseBounded remaining (input.drop (position + 1))
          .ok (applyOperator operator left right)
      | none => parseTerm input

def RelationExpression.parse (input : String) :
    Except Error RelationExpression :=
  parseBounded 128 input.toList

example : (RelationExpression.parse "(a + b) & parent->c").toOption.isSome = true :=
  by decide +kernel

/-! ## Policy validation -/

namespace Policy

/-- Expressions name relations declared in their resource. -/
def validateExpression (policy : Policy) (resourceName : String) :
    RelationExpression → Except Error Unit
  | .this => .ok ()
  | .computedUserset relation =>
    if (policy.getRelation resourceName relation).isNone then
      .error (.invalidPolicy
        ("ComputedUserset references non-existent relation '" ++ relation ++
          "' in resource '" ++ resourceName ++ "'"))
    else
      .ok ()
  | .tupleToUserset tupleRelation _ =>
    if (policy.getRelation resourceName tupleRelation).isNone then
      .error (.invalidPolicy
        ("TupleToUserset references non-existent tuple relation '" ++
          tupleRelation ++ "' in resource '" ++ resourceName ++ "'"))
    else
      .ok ()
  | .union exprs => validateOperands exprs
  | .intersection exprs => validateOperands exprs
  | .difference base subtract => do
      validateExpression policy resourceName base
      validateExpression policy resourceName subtract
where
  validateOperands : List RelationExpression → Except Error Unit
    | [] => .ok ()
    | expression :: rest => do
        validateExpression policy resourceName expression
        validateOperands rest

/-- Every expression of every resource, the actor included, is valid. -/
def validate (policy : Policy) : Except Error Unit :=
  (policy.resources ++ policy.actor.toList).forM fun resource =>
    resource.relations.forM fun relation =>
      policy.validateExpression resource.name relation.expression

mutual

theorem validateExpression_congr {first second : Policy} {resource : String}
    (same : ∀ relation,
      first.getRelation resource relation = second.getRelation resource relation) :
    ∀ expression, first.validateExpression resource expression =
      second.validateExpression resource expression
  | .this => rfl
  | .computedUserset relation => by
      simp only [validateExpression, same]
  | .tupleToUserset tupleRelation _ => by
      simp only [validateExpression, same]
  | .union exprs => by
      simp only [validateExpression, validateOperands_congr same exprs]
  | .intersection exprs => by
      simp only [validateExpression, validateOperands_congr same exprs]
  | .difference base subtract => by
      simp only [validateExpression, validateExpression_congr same base,
        validateExpression_congr same subtract]

theorem validateOperands_congr {first second : Policy} {resource : String}
    (same : ∀ relation,
      first.getRelation resource relation = second.getRelation resource relation) :
    ∀ exprs, validateExpression.validateOperands first resource exprs =
      validateExpression.validateOperands second resource exprs
  | [] => rfl
  | expression :: rest => by
      simp only [validateExpression.validateOperands, validateExpression_congr same expression,
        validateOperands_congr same rest]

end

theorem validate_rename (policy : Policy) (id : String) :
    ({ policy with id := id } : Policy).validate = policy.validate := by
  unfold validate
  congr 1
  funext resource
  congr 1
  funext relation
  apply validateExpression_congr
  intro name
  rfl

end Policy

end VeraHub.Zanzibar

import SourceMacros.Grammar.Pattern

/-! Operators after an operand, with the operands that they take. -/

namespace SourceMacros.Grammar

def endsOpenRange (structs : Bool) (ts : List Token) : Bool :=
  ts.isEmpty || isSign "." ts && !isSign ".." ts || !structs && isBraced ts || isWord "as" ts ||
    [",", ";", "?", "=>", "=", "+", "/", "%", "^", ">", "<=", "!=", "-=", "*=", "&=", "|=", "<<="].any
      (isSign · ts)

/-- The operand after an operator, with all that holds it more tightly. -/
def rightSideWithin (parts : Parts) (structs : Bool) (precedence : Precedence) :
    Nat → ExpressionShape → Grammar Unit
  | 0, _ => return
  | n + 1, shape => do
    let before ← front
    let next := Precedence.ofFront before
    if precedence < next || next = precedence && precedence = .assignment then
      let shape ← parts.operation shape structs next
      if (← front).length < before.length then rightSideWithin parts structs precedence n shape

def rightSide (parts : Parts) (structs : Bool) (precedence : Precedence) : Grammar Unit := do
  let shape ← parts.operand structs
  rightSideWithin parts structs precedence ((← front).length + 1) shape

def rangeRest (parts : Parts) (structs : Bool) : Grammar ExpressionShape := do
  let isClosed ← rangeSign false
  if isClosed || !(← sees (endsOpenRange structs)) then rightSide parts structs .range
  return .range

def afterCast? (ts : List Token) : Option String :=
  let next := skip 1 ts
  if isSign "." ts && !isSign ".." ts then
    if isWord "await" next then some "`.await`"
    else if isName next && (isParenthesized (skip 2 ts) || isSign "::" (skip 2 ts)) then
      some "a method call"
    else some "a field access"
  else if isSign "?" ts then some "`?`"
  else if isBracketed ts then some "indexing"
  else if isParenthesized ts then some "a function call"
  else none

def castRest (parts : Parts) : Grammar ExpressionShape := do
  keyword "as"
  let _ ← parts.type false
  match afterCast? (← front) with
  | some what => refuse (.afterCast what)
  | none => return .other

def operationStep (parts : Parts) (left : ExpressionShape) (structs : Bool) (base : Precedence) :
    Grammar (Option ExpressionShape) := do
  if left = .range then return none
  let rest ← front
  let next := Precedence.ofFront rest
  if next = .lowest || next < base then return none
  match binaryOperator? rest, next with
  | some (text, _), _ =>
    if next = .comparison && left = .comparison then refuse .chainedComparison
    sign text
    rightSide parts structs next
    return some (if next = .comparison then .comparison else .other)
  | none, .assignment =>
    sign "="
    rightSide parts structs .assignment
    return some .other
  | none, .range => some <$> rangeRest parts structs
  | none, _ => some <$> castRest parts

def operationWithin (parts : Parts) (structs : Bool) (base : Precedence) :
    Nat → ExpressionShape → Grammar ExpressionShape
  | 0, left => return left
  | n + 1, left => do
    match ← operationStep parts left structs base with
    | some left => operationWithin parts structs base n left
    | none => return left

def operation (parts : Parts) (left : ExpressionShape) (structs : Bool) (base : Precedence) :
    Grammar ExpressionShape := do
  operationWithin parts structs base ((← front).length + 1) left

def expression (parts : Parts) (structs : Bool) : Grammar ExpressionShape := do
  operation parts (← parts.operand structs) structs .lowest

end SourceMacros.Grammar

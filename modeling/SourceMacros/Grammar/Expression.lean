import SourceMacros.Grammar.Bound
import SourceMacros.Grammar.Operation

/-! Expressions. -/

namespace SourceMacros.Grammar

def anyExpression (parts : Parts) : Grammar Unit := discard (parts.expression true)

/-- Whether a sign is at the front, and none of those that it is the beginning of. -/
def isSignBut (text : String) (longer : List String) (ts : List Token) : Bool :=
  isSign text ts && !longer.any (isSign · ts)

def startsExpression (ts : List Token) : Bool :=
  Kind.word.stands ts && !isWord "as" ts || isParenthesized ts || isBracketed ts || isBraced ts ||
    isLiteral ts || isLifetime ts || isSign ".." ts || isSign "::" ts || isSign "#" ts ||
    isSignBut "!" ["!="] ts || isSignBut "-" ["-=", "->"] ts || isSignBut "*" ["*="] ts ||
    isSignBut "|" ["|="] ts || isSignBut "&" ["&="] ts || isSignBut "<" ["<=", "<<="] ts

def optionalExpression (parts : Parts) : Grammar Unit := do
  if ← sees startsExpression then anyExpression parts

/-- The numbers of fields that a spelled number with points in it stands for; tells whether a point is left
at its end. -/
def fieldNumbers (isNegative : Bool) (text : String) : Grammar Bool := do
  let isOpen := text.endsWith "."
  let numbers := if isOpen then (text.splitOn ".").dropLast else text.splitOn "."
  for (number, index) in numbers.zipIdx do
    if index ≠ 0 then write [.lone '.']
    if Token.isWholeText number then writeFieldNumber (isNegative && index = 0) number
    else throw (.expected Kind.wholeLiteral.title)
  if isOpen then write [.lone '.']
  return isOpen

def memberTail (parts : Parts) : Grammar Unit := do
  if ← acceptKeyword "await" then return
  let isNamed ← member
  let hasArguments ← if isNamed then acceptSign "::" else pure false
  if hasArguments then
    let _ ← angled false (entries (genericArgument parts))
  if hasArguments || isNamed && (← peek (.group .parenthesis)) then
    within .parenthesis (commaList (anyExpression parts))

def pointTail (parts : Parts) : Grammar Unit := do
  sign "."
  if ← peek .realLiteral then
    let isOpen ← match ← silently (need .realLiteral) with
      | [.literal text] => fieldNumbers false text
      | [_, .literal text] => fieldNumbers true text
      | _ => pure true
    if isOpen then memberTail parts
  else memberTail parts

def trailersWithin (parts : Parts) : Nat → ExpressionShape → Grammar ExpressionShape
  | 0, shape => return shape
  | n + 1, shape => do
    let rest ← front
    if isParenthesized rest then
      within .parenthesis (commaList (anyExpression parts))
      trailersWithin parts n .other
    else if isBracketed rest then
      within .bracket (anyExpression parts)
      trailersWithin parts n .other
    else if isSignBut "." [".."] rest && shape ≠ .range then
      pointTail parts
      trailersWithin parts n .other
    else if isSign "?" rest && shape ≠ .range then
      sign "?"
      trailersWithin parts n .other
    else return shape

def trailers (parts : Parts) (shape : ExpressionShape) : Grammar ExpressionShape := do
  trailersWithin parts ((← front).length + 1) shape

def fieldValue (parts : Parts) : Grammar Unit := do
  let _ ← attributes parts
  let isNamed ← member
  if !isNamed || (← peek (.sign ":")) then
    sign ":"
    anyExpression parts

def fieldValuesWithin (parts : Parts) : Nat → Grammar Unit
  | 0 => return
  | n + 1 => do
    if ← atEnd then return
    if ← acceptSign ".." then
      if !(← atEnd) then anyExpression parts
      return
    fieldValue parts
    if ← atEnd then return
    sign ","
    fieldValuesWithin parts n

def pathExpression (parts : Parts) (structs : Bool) : Grammar ExpressionShape := do
  let shape ← qualifiablePath parts true
  if shape.isBare && (← sees startsCallTail) then
    return .call (← callTail)
  if structs && (← peek (.group .brace)) then
    within .brace do
      fieldValuesWithin parts ((← front).length + 1)
  return .other

def arrayExpression (parts : Parts) : Grammar Unit :=
  within .bracket do
    if ← atEnd then return
    anyExpression parts
    if ← atEnd then return
    if ← acceptSign "," then commaList (anyExpression parts)
    else if ← acceptSign ";" then anyExpression parts
    else expected "`,` or `;`"

def closureArgument (parts : Parts) : Grammar Unit := do
  let _ ← attributes parts
  let _ ← parts.pattern
  if ← acceptSign ":" then
    let _ ← parts.type true

def closure (parts : Parts) (structs : Bool) : Grammar Unit := do
  let _ ← binder parts
  for text in ["const", "static", "async", "move"] do
    let _ ← acceptKeyword text
  sign "|"
  let _ ← listUntil (isSign "|") "," (closureArgument parts)
  sign "|"
  if ← acceptSign "->" then
    let _ ← parts.type true
    block parts
  else
    let _ ← parts.expression structs

def ifWithin (parts : Parts) : Nat → Grammar Unit
  | 0 => return
  | n + 1 => do
    keyword "if"
    let _ ← parts.expression false
    block parts
    if ← acceptKeyword "else" then
      firstOf [.of [.keyword "if"] (ifWithin parts n), .of [.group .brace] (block parts)]

def ifExpression (parts : Parts) : Grammar Unit := do
  ifWithin parts ((← front).length + 1)

def whileExpression (parts : Parts) : Grammar Unit := do
  keyword "while"
  let _ ← parts.expression false
  body parts

def forExpression (parts : Parts) : Grammar Unit := do
  keyword "for"
  let _ ← alternatives parts
  keyword "in"
  let _ ← parts.expression false
  body parts

def loopExpression (parts : Parts) : Grammar Unit := do
  keyword "loop"
  body parts

/-- A case of a match; a comma has to follow it unless it ends with a block. -/
def arm (parts : Parts) : Grammar Unit := do
  let _ ← attributes parts
  let _ ← alternatives parts
  if ← acceptKeyword "if" then anyExpression parts
  sign "=>"
  let shape ← parts.standing
  let isLast ← atEnd
  if shape = .block || isLast then
    let _ ← acceptSign ","
  else sign ","

def matchExpression (parts : Parts) : Grammar Unit := do
  keyword "match"
  let _ ← parts.expression false
  within .brace do
    innerAttributes parts
    repeatWhile (return !(← atEnd)) (arm parts)

def labeledExpression (parts : Parts) : Grammar Unit := do
  lifetime
  sign ":"
  let rest ← front
  if isWord "while" rest then whileExpression parts
  else if isWord "for" rest then forExpression parts
  else if isWord "loop" rest then loopExpression parts
  else if isBraced rest then body parts
  else expected "loop or block expression"

def leadsParameters (ts : List Token) : Bool := startsParameters (skip 1 ts)

def blockExpressions (parts : Parts) : List (Choice ExpressionShape) :=
  [(isWord "if", ifExpression parts), (isWord "while", whileExpression parts),
    (fun ts => isWord "for" ts && !leadsParameters ts, forExpression parts),
    (isWord "loop", loopExpression parts), (isWord "match", matchExpression parts),
    (fun ts => isWord "try" ts && isBraced (skip 1 ts), do keyword "try"; block parts),
    (isWord "unsafe", do keyword "unsafe"; body parts),
    (fun ts => isWord "const" ts && isBraced (skip 1 ts), do keyword "const"; body parts),
    (isBraced, body parts), (isLifetime, labeledExpression parts)].map
    fun (holds, p) => ⟨[], holds, do p; return .block⟩

def breakExpression (parts : Parts) (structs : Bool) : Grammar Unit := do
  keyword "break"
  if ← sees (fun ts => isLifetime ts && isSign ":" (skip 1 ts)) then
    anyExpression parts
    refuse .bareLabeledBreak
  let _ ← accept .lifetime
  if structs || !(← peek (.group .brace)) then optionalExpression parts

def letExpression (parts : Parts) (structs : Bool) : Grammar Unit := do
  keyword "let"
  let _ ← alternatives parts
  sign "="
  let shape ← parts.operand structs
  let _ ← parts.operation shape structs .comparison

def startsAsyncBlock (ts : List Token) : Bool :=
  let next := skip 1 ts
  isWord "async" ts && (isBraced next || isWord "move" next && isBraced (skip 2 ts))

def startsClosure (ts : List Token) : Bool :=
  let next := skip 1 ts
  isSign "|" ts || isWord "move" ts || isWord "for" ts && leadsParameters ts ||
    isWord "const" ts && !isBraced next || isWord "static" ts ||
    isWord "async" ts && (isSign "|" next || isWord "move" next)

def startsPathExpression (ts : List Token) : Bool :=
  let next := skip 1 ts
  startsBareName ts || isSign "::" ts || isSign "<" ts ||
    isWord "try" ts && (isSign "!" next || isSign "::" next)

def builtin : Grammar Unit :=
  raw do
    keyword "builtin"
    sign "#"
    let _ ← name
    let _ ← need (.group .parenthesis)

def openExpressions (parts : Parts) (structs : Bool) : List (Choice ExpressionShape) :=
  [(isLiteral, discard (need .literal)),
    (startsAsyncBlock, do keyword "async"; let _ ← acceptKeyword "move"; block parts),
    (startsClosure, closure parts structs),
    (fun ts => isWord "builtin" ts && isSign "#" (skip 1 ts), builtin),
    (isParenthesized, within .parenthesis (commaList (anyExpression parts))),
    (isWord "break", breakExpression parts structs),
    (isWord "continue", do keyword "continue"; let _ ← accept .lifetime),
    (isWord "return", do keyword "return"; optionalExpression parts),
    (isWord "become", raw do keyword "become"; anyExpression parts),
    (isBracketed, arrayExpression parts),
    (isWord "let", letExpression parts structs),
    (isWord "yield", do keyword "yield"; optionalExpression parts),
    (isWord "_", keyword "_")].map fun (holds, p) => ⟨[], holds, do p; return .other⟩

def atom (parts : Parts) (structs : Bool) : Grammar ExpressionShape :=
  firstOf (openExpressions parts structs ++ blockExpressions parts ++
    [⟨[], startsPathExpression, pathExpression parts structs⟩,
      ⟨[], isSign "..", rangeRest parts structs⟩,
      ⟨[], fun _ => true, expected "an expression"⟩])

/-- Whether a reference is to a place that need not be valid. -/
def startsRaw (ts : List Token) : Bool :=
  let next := skip 1 ts
  isWord "raw" ts && (isWord "mut" next || isWord "const" next)

def operand (parts : Parts) (structs : Bool) : Grammar ExpressionShape := do
  let isMarked ← attributes parts
  if ← acceptSign "&" then
    if ← sees startsRaw then
      keyword "raw"
      let _ ← word
    else
      let _ ← acceptKeyword "mut"
    let _ ← parts.operand structs
    return .other
  let rest ← front
  match ["*", "!", "-"].find? (isSign · rest) with
  | some text =>
    sign text
    let _ ← parts.operand structs
    return .other
  | none =>
    let shape ← trailers parts (← atom parts structs)
    if isMarked && shape = .range then refuse .markedRange
    return shape

/-- An expression as a statement, which ends early where it ends with a block. -/
def standing (parts : Parts) : Grammar ExpressionShape := do
  let _ ← attributes parts
  let rest ← front
  match (blockExpressions parts).find? (·.holds rest) with
  | some choice =>
    let shape ← choice.read
    if ← sees (fun ts => isSignBut "." [".."] ts || isSign "?" ts) then
      parts.operation (← trailers parts shape) true .lowest
    else return shape
  | none => parts.operation (← parts.operand true) true .lowest

end SourceMacros.Grammar

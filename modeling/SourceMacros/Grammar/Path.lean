import SourceMacros.Grammar.Attribute

/-! Paths, and the arguments of their names. -/

namespace SourceMacros.Grammar

/-- An entry of a list of arguments or parameters, as it is written anew. -/
structure Entry where
  isLifetime : Bool
  tokens : List Token
  hasComma : Bool

def Entry.written : List Entry → List Token
  | [] => []
  | e :: es =>
    e.tokens ++ (if e.hasComma || !es.isEmpty then [.lone ','] else []) ++ Entry.written es

/-- Reads up to a closing angle bracket what tells whether it is a lifetime. -/
def entriesWithin (p : Grammar Bool) : Nat → Grammar (List Entry)
  | 0 => return []
  | n + 1 => do
    if ← peek (.sign ">") then return []
    let (isLifetime, tokens) ← captured p
    if ← peek (.sign ">") then return [⟨isLifetime, tokens, false⟩]
    let _ ← captured (sign ",")
    return ⟨isLifetime, tokens, true⟩ :: (← entriesWithin p n)

def entries (p : Grammar Bool) : Grammar (List Entry) := do
  entriesWithin p ((← front).length + 1)

/-- A list in angle brackets, in which lifetimes are written first; tells how many entries there are. A
list without any may be left out. -/
def angled (mayVanish : Bool) (p : Grammar (List Entry)) : Grammar Nat := do
  let (entries, _) ← captured do
    sign "<"
    let entries ← p
    sign ">"
    return entries
  if !(mayVanish && entries.isEmpty) then
    write ([.lone '<'] ++
      Entry.written (entries.filter (·.isLifetime) ++ entries.filter (!·.isLifetime)) ++ [.lone '>'])
  return entries.length

def lifetime : Grammar Unit := discard (need .lifetime)

def constArgument (parts : Parts) : Grammar Unit := do
  if ← peek .literal then
    let _ ← need .literal
  else if ← peek .name then
    let _ ← name
  else if ← peek (.group .brace) then
    body parts
  else throw (noneOf [] (← front))

def startsConstant (ts : List Token) : Bool := isLiteral ts || isBraced ts

def genericArgument (parts : Parts) : Grammar Bool := do
  if ← sees (fun ts => isLifetime ts && !isSign "+" (skip 1 ts)) then
    lifetime
    return true
  if ← sees startsConstant then
    constArgument parts
    return false
  let shape ← parts.type true
  if shape = .name then
    if ← acceptSign "=" then
      if ← sees startsConstant then constArgument parts
      else let _ ← parts.type true
    else if ← acceptSign ":" then
      let _ ← chainUntil (fun ts => isSign "," ts || isSign ">" ts) "+"
        (discard (parts.bound false true))
  return false

/-- Arguments in angle brackets, which may have a sign before them; tells how many tokens they are written
in, if they are empty. -/
def angleArguments (parts : Parts) : Grammar (Option Nat) := do
  let isLed ← acceptSign "::"
  let count ← angled false (entries (genericArgument parts))
  return if count = 0 then some (if isLed then 4 else 2) else none

/-- Whether arguments in angle brackets follow a name; in an expression they have a sign before them. -/
def startsArguments (inExpression : Bool) (ts : List Token) : Bool :=
  !inExpression && isSign "<" ts && !isSign "<=" ts && !isSign "<<=" ts ||
    isSign "::" ts && isSign "<" (skip 2 ts)

/-- A name of a path with its arguments; tells how many tokens these are written in, if they are empty. -/
def segment (parts : Parts) (inExpression : Bool) : Grammar (Option Nat) := do
  if ← sees (fun ts => ["super", "self", "crate", "try"].any (isWord · ts)) then
    let _ ← word
    return some 0
  if !(← acceptKeyword "Self") then
    let _ ← name
  if ← sees (startsArguments inExpression) then angleArguments parts
  else return some 0

def segmentsWithin (parts : Parts) (inExpression : Bool) : Nat → PathShape → Grammar PathShape
  | 0, shape => return shape
  | n + 1, shape => do
    if ← sees (fun ts => isSign "::" ts && !isParenthesized (skip 2 ts)) then
      sign "::"
      let emptyEnd ← segment parts inExpression
      segmentsWithin parts inExpression n
        { shape with isName := false, isBare := shape.isBare && emptyEnd = some 0, emptyEnd }
    else return shape

def moreSegments (parts : Parts) (inExpression : Bool) (shape : PathShape) : Grammar PathShape := do
  segmentsWithin parts inExpression ((← front).length + 1) shape

def path (parts : Parts) (inExpression : Bool) : Grammar PathShape := do
  let isLed ← acceptSign "::"
  let emptyEnd ← segment parts inExpression
  moreSegments parts inExpression
    { isName := !isLed, isBare := emptyEnd = some 0, isQualified := false, emptyEnd }

def qualifiedSegments (parts : Parts) (inExpression : Bool) : Nat → Grammar (Option Nat)
  | 0 => return none
  | n + 1 => do
    let emptyEnd ← segment parts inExpression
    if ← acceptSign "::" then qualifiedSegments parts inExpression n
    else return emptyEnd

def qualifiablePath (parts : Parts) (inExpression : Bool) : Grammar PathShape := do
  if ← acceptSign "<" then
    let _ ← parts.type true
    if ← acceptKeyword "as" then
      let _ ← path parts false
    sign ">"
    sign "::"
    let emptyEnd ← qualifiedSegments parts inExpression ((← front).length + 1)
    return { isName := false, isBare := false, isQualified := true, emptyEnd }
  else path parts inExpression

def returnType (parts : Parts) (allowsSum : Bool) : Grammar TypeShape := do
  if ← acceptSign "->" then parts.type allowsSum
  else return .other

def startsParenthesized (shape : PathShape) (ts : List Token) : Bool :=
  shape.emptyEnd.isSome &&
    (isParenthesized ts || isSign "::" ts && isParenthesized (skip 2 ts))

/-- Arguments in parentheses take the place of those in angle brackets; tells the type they lead to. -/
def parenthesizedArguments (parts : Parts) (shape : PathShape) : Grammar TypeShape := do
  modify fun c => { c with written := c.written.take (c.written.length - shape.emptyEnd.getD 0) }
  let _ ← captured (acceptSign "::")
  within .parenthesis (commaList (discard (parts.type true)))
  returnType parts false

end SourceMacros.Grammar

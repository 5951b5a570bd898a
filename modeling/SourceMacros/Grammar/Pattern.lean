import SourceMacros.Grammar.Path

/-! Patterns, and the names of fields. -/

namespace SourceMacros.Grammar

def fieldNumberBound : Nat := Nat.pow 2 32

/-- The number of a field, as it is spelled; it is written in decimal digits. -/
def writeFieldNumber (isNegative : Bool) (text : String) : Grammar Unit := do
  if Token.hasSuffix text then refuse .suffixedIndex
  if isNegative then refuse .indexDigits
  if Token.wholeValue text < fieldNumberBound then
    write [.literal (toString (Token.wholeValue text))]
  else refuse .indexSize

def member : Grammar Bool := do
  if ← peek .name then
    let _ ← name
    return true
  if !(← peek .wholeLiteral) then expected "identifier or integer"
  match ← silently (need .wholeLiteral) with
  | [.literal text] => writeFieldNumber false text
  | [_, .literal text] => writeFieldNumber true text
  | _ => expected "identifier or integer"
  return false

/-- What makes a range: it may include its end or not, which is told. -/
def rangeSign (allowsThreeDots : Bool) : Grammar Bool := do
  let rest ← front
  if isSign "..=" rest then
    sign "..="
    return true
  if isSign "..." rest then
    if !allowsThreeDots then throw (.expected (Kind.sign "..=").title)
    let _ ← captured (sign "...")
    write (Token.marks ['.', '.', '='])
    return true
  sign ".."
  return false

def endsRange (ts : List Token) : Bool :=
  ts.isEmpty || isSign "|" ts || isSign "=" ts || isColon ts || isSign "," ts || isSign ";" ts ||
    isWord "if" ts

def rangeBound (parts : Parts) : Grammar Bool := do
  if ← sees endsRange then return false
  firstOf [.of [.literal] (discard (need .literal)),
    .of [.name, .sign "::", .sign "<", .keyword "self", .keyword "Self", .keyword "super",
        .keyword "crate"] (discard (qualifiablePath parts true)),
    .of [.keyword "const"] (do keyword "const"; body parts)]
  return true

def rangeTail (parts : Parts) (allowsThreeDots : Bool) : Grammar PatternShape := do
  let isClosed ← rangeSign allowsThreeDots
  let isEnded ← rangeBound parts
  if isClosed && !isEnded then expected "range upper bound"
  return if isEnded then .other else .openRange

/-- A range without a start, or what stands for all that is left. -/
def halfRange (parts : Parts) : Grammar PatternShape := do
  match ← rangeTail parts false with
  | .openRange => return .rest
  | _ => return .openRange

def literalPattern (parts : Parts) : Grammar PatternShape := do
  let _ ← rangeBound parts
  if ← peek (.sign "..") then rangeTail parts true
  else return .other

/-- Patterns of which any may hold; a bar may stand before the first. -/
def alternatives (parts : Parts) : Grammar PatternShape := do
  let startsNext := fun ts => isSign "|" ts && !isSign "||" ts && !isSign "|=" ts
  let isLed ← acceptSign "|"
  let first ← parts.pattern
  let isMany := isLed || (← sees startsNext)
  repeatWhile (sees startsNext) do
    sign "|"
    let _ ← parts.pattern
  return if isMany then .other else first

def fieldPattern (parts : Parts) : Grammar Unit := do
  let isBoxed ← acceptKeyword "box"
  let isReference ← acceptKeyword "ref"
  let isMutable ← acceptKeyword "mut"
  if isBoxed || isReference || isMutable then
    let _ ← name
  else
    let isNamed ← member
    if !isNamed || (← peek (.sign ":")) then
      sign ":"
      let _ ← alternatives parts

def fieldPatternsWithin (parts : Parts) : Nat → Grammar Unit
  | 0 => return
  | n + 1 => do
    if ← atEnd then return
    let _ ← attributes parts
    if ← acceptSign ".." then return
    fieldPattern parts
    if ← atEnd then return
    sign ","
    fieldPatternsWithin parts n

def pathPattern (parts : Parts) : Grammar PatternShape := do
  let shape ← qualifiablePath parts true
  if shape.isBare && (← sees startsCallTail) then
    let _ ← callTail
    return .other
  if ← peek (.group .brace) then
    within .brace do
      fieldPatternsWithin parts ((← front).length + 1)
    return .other
  if ← peek (.group .parenthesis) then
    within .parenthesis (commaList (discard (alternatives parts)))
    return .other
  if ← peek (.sign "..") then rangeTail parts true
  else return .other

def namePattern (parts : Parts) : Grammar PatternShape := do
  let _ ← acceptKeyword "ref"
  let _ ← acceptKeyword "mut"
  if !(← acceptKeyword "self") then
    let _ ← name
  if ← acceptSign "@" then
    let _ ← parts.pattern
  return .other

def referencePattern (parts : Parts) : Grammar PatternShape := do
  sign "&"
  let _ ← acceptKeyword "mut"
  let _ ← parts.pattern
  return .other

/-- In a slice, a range that is open on a side has to stand in parentheses. -/
def sliceElement (parts : Parts) : Grammar Unit := do
  if (← alternatives parts) = .openRange then refuse .openRangeInSlice

def startsPathPattern (ts : List Token) : Bool :=
  let next := skip 1 ts
  isName ts && (["::", "!", ".."].any (isSign · next) || isBraced next || isParenthesized next) ||
    isWord "self" ts && isSign "::" next ||
    isSign "::" ts || isSign "<" ts || ["Self", "super", "crate"].any (isWord · ts)

def pattern (parts : Parts) : Grammar PatternShape :=
  firstOf [⟨[.name, .sign "::", .sign "<"], startsPathPattern, pathPattern parts⟩,
    .of [.keyword "_"] (do keyword "_"; return .other),
    ⟨[], isWord "box", raw do keyword "box"; let _ ← parts.pattern; return .other⟩,
    ⟨[.literal, .keyword "const"], fun ts => isSign "-" ts || isLiteral ts || isWord "const" ts,
      literalPattern parts⟩,
    ⟨[.keyword "ref", .keyword "mut"],
      fun ts => ["ref", "mut", "self"].any (isWord · ts) || isName ts, namePattern parts⟩,
    .of [.sign "&"] (referencePattern parts),
    .of [.group .parenthesis] (do
      within .parenthesis (commaList (discard (alternatives parts)))
      return .other),
    .of [.group .bracket] (do
      within .bracket (commaList (sliceElement parts))
      return .other),
    ⟨[.sign ".."], fun ts => isSign ".." ts && !isSign "..." ts, halfRange parts⟩,
    ⟨[.keyword "const"], fun _ => false, return .other⟩]

end SourceMacros.Grammar

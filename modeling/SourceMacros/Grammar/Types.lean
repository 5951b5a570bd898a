import SourceMacros.Grammar.Bound

/-! Types. -/

namespace SourceMacros.Grammar

def startsBound (ts : List Token) : Bool :=
  Kind.word.stands ts || isSign "::" ts || isSign "?" ts || isLifetime ts || isParenthesized ts

def boundsWithin (parts : Parts) (allowsSum allowsCapture allowsConst : Bool) :
    Nat → Grammar (List BoundShape)
  | 0 => return []
  | n + 1 => do
    let first ← parts.bound allowsCapture allowsConst
    if !allowsSum || !(← acceptSign "+") then return [first]
    if ← sees (fun ts => startsBound ts || allowsConst && isBracketed ts) then
      return first :: (← boundsWithin parts allowsSum allowsCapture allowsConst n)
    else return [first]

def traitBounds (parts : Parts) (allowsSum isOpaqueType : Bool) : Grammar Unit := do
  let bounds ← boundsWithin parts allowsSum isOpaqueType isOpaqueType ((← front).length + 1)
  if !bounds.contains .trait then
    refuse (if isOpaqueType then .boundsWithoutTrait else .objectWithoutTrait)

def addedBounds (parts : Parts) : Grammar Unit :=
  repeatWhile (peek (.sign "+")) do
    sign "+"
    let _ ← parts.bound false false

/-- Bounds that each have a plus before them; nothing has to stand after the last plus. -/
def moreBoundsWithin (parts : Parts) : Nat → Grammar Unit
  | 0 => return
  | n + 1 => do
    if ← acceptSign "+" then
      if ← sees startsBound then
        let _ ← parts.bound false false
        moreBoundsWithin parts n

/-- What is found between parentheses. -/
inductive Enclosed where
  | nothing
  | tuple
  | traits
  /-- A trait that need not hold. -/
  | relaxed
  | single (shape : TypeShape)

def enclosed (parts : Parts) : Grammar Enclosed := do
  if ← atEnd then return .nothing
  if ← peek .lifetime then
    traitBounds parts true false
    return .traits
  if ← peek (.sign "?") then
    let _ ← traitBound parts false
    return .relaxed
  let first ← parts.type true
  if ← acceptSign "," then
    commaList (discard (parts.type true))
    return .tuple
  return .single first

def TypeShape.mayBeBound : TypeShape → Bool
  | .name | .path | .traits true => true
  | _ => false

def parenthesizedType (parts : Parts) (allowsSum : Bool) : Grammar TypeShape := do
  match ← within .parenthesis (enclosed parts) with
  | .nothing | .tuple => return .other
  | .traits => return .parenthesized
  | .relaxed =>
    addedBounds parts
    return .traits false
  | .single shape =>
    if allowsSum && shape.mayBeBound && (← peek (.sign "+")) then
      addedBounds parts
      return .traits false
    else return .parenthesized

/-- Whether a named argument of the given kind follows. -/
def startsNamed (mayBeSelf : Bool) (ts : List Token) : Bool :=
  (isName ts || isWord "_" ts || mayBeSelf && isWord "self" ts) && isColon (skip 1 ts)

def isMutSelf (ts : List Token) : Bool := isWord "mut" ts && isWord "self" (skip 1 ts)

def functionTypeArgument (parts : Parts) (mayBeSelf : Bool) : Grammar Unit := do
  if ← sees (fun ts => mayBeSelf && isMutSelf ts) then
    raw do
      keyword "mut"
      keyword "self"
      if ← sees isColon then
        sign ":"
        let _ ← parts.type true
  else if ← sees (startsNamed mayBeSelf) then
    if ← sees (fun ts => mayBeSelf && !isWord "self" ts && isMutSelf (skip 2 ts)) then
      raw do
        let _ ← word
        sign ":"
        keyword "mut"
        keyword "self"
    else
      let _ ← word
      sign ":"
      let _ ← parts.type true
  else
    let _ ← parts.type true

def startsVariadic (ts : List Token) : Bool :=
  isSign "..." ts ||
    (isName ts || isWord "_" ts) && isSign ":" (skip 1 ts) && isSign "..." (skip 2 ts)

def functionTypeArgumentsWithin (parts : Parts) (isFirst : Bool) : Nat → Grammar Unit
  | 0 => return
  | n + 1 => do
    if ← atEnd then return
    let _ ← attributes parts
    if ← sees startsVariadic then
      if !(← peek (.sign "...")) then
        let _ ← word
        sign ":"
      sign "..."
      let _ ← acceptSign ","
    else
      functionTypeArgument parts isFirst
      if ← atEnd then return
      sign ","
      functionTypeArgumentsWithin parts false n

def functionType (parts : Parts) : Grammar TypeShape := do
  let _ ← acceptKeyword "unsafe"
  abi
  keyword "fn"
  within .parenthesis do
    functionTypeArgumentsWithin parts true ((← front).length + 1)
  let _ ← returnType parts false
  return .other

def typePathWithin (parts : Parts) : Nat → PathShape → Grammar PathShape
  | 0, shape => return shape
  | n + 1, shape => do
    if ← sees (startsParenthesized shape) then
      let result ← parenthesizedArguments parts shape
      let shape := { shape with isName := false, isBare := false, emptyEnd := none }
      if result = .parenthesized then
        typePathWithin parts n (← moreSegments parts false shape)
      else return shape
    else return shape

/-- A path as a type, as the start of a macro call, or as the first of several traits. -/
def pathType (parts : Parts) (allowsSum isBound : Bool) : Grammar TypeShape := do
  let shape ← qualifiablePath parts false
  let shape ← typePathWithin parts ((← front).length + 1) shape
  if shape.isQualified then return .other
  if shape.isBare && (← sees startsCallTail) then
    let _ ← callTail
    return .other
  if isBound || allowsSum && (← peek (.sign "+")) then
    let single := !allowsSum || !(← peek (.sign "+"))
    if allowsSum then moreBoundsWithin parts ((← front).length + 1)
    return .traits single
  return if shape.isName then .name else .path

def objectType (parts : Parts) (allowsSum : Bool) : Grammar TypeShape := do
  let _ ← rawIf id do
    keyword "dyn"
    let isStarred ← acceptSign "*"
    traitBounds parts allowsSum false
    return isStarred
  return .other

def bracketedType (parts : Parts) : Grammar TypeShape := do
  within .bracket do
    let _ ← parts.type true
    if ← acceptSign ";" then
      let _ ← parts.expression true
  return .other

def pointerType (parts : Parts) : Grammar TypeShape := do
  sign "*"
  firstOf [.of [.keyword "const"] (keyword "const"), .of [.keyword "mut"] (keyword "mut")]
  let _ ← parts.type false
  return .other

def referenceType (parts : Parts) : Grammar TypeShape := do
  sign "&"
  let _ ← accept .lifetime
  let _ ← acceptKeyword "mut"
  let _ ← parts.type false
  return .other

def boundTypeStarts : List Kind :=
  [.name, .keyword "fn", .keyword "unsafe", .keyword "extern", .keyword "super", .keyword "self",
    .keyword "Self", .keyword "crate"]

def boundType (parts : Parts) (allowsSum : Bool) : Grammar TypeShape := do
  let _ ← binder parts
  let rest ← front
  if !boundTypeStarts.any (·.stands rest) then throw (noneOf boundTypeStarts rest)
  if ["fn", "unsafe", "extern"].any (isWord · rest) then functionType parts
  else pathType parts allowsSum true

def type (parts : Parts) (allowsSum : Bool) : Grammar TypeShape :=
  firstOf [.of [.keyword "for"] (boundType parts allowsSum),
    .of [.group .parenthesis] (parenthesizedType parts allowsSum),
    .of [.keyword "fn", .keyword "unsafe", .keyword "extern"] (functionType parts),
    ⟨[.name, .sign "::", .sign "<"],
      fun ts => startsBareName ts || isSign "::" ts || isSign "<" ts,
      pathType parts allowsSum false⟩,
    .of [.keyword "dyn"] (objectType parts allowsSum),
    .of [.group .bracket] (bracketedType parts),
    .of [.sign "*"] (pointerType parts),
    .of [.sign "&"] (referenceType parts),
    .of [.sign "!"] (do sign "!"; return .other),
    .of [.keyword "impl"] (do keyword "impl"; traitBounds parts allowsSum true; return .other),
    .of [.keyword "_"] (do keyword "_"; return .other),
    .of [.lifetime] (do traitBounds parts true false; return .traits false)]

end SourceMacros.Grammar

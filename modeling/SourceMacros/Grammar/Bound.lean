import SourceMacros.Grammar.Path

/-! Parameters in angle brackets, the bounds of types, and clauses of bounds. -/

namespace SourceMacros.Grammar

def startsParameters (ts : List Token) : Bool :=
  let next := skip 1 ts
  let after := skip 2 ts
  isSign "<" ts &&
    (isSign ">" next || isSign "#" next || isWord "const" next ||
      (isLifetime next || isName next) &&
        (isSign ">" after || isSign "," after || isColon after || isSign "=" after))

/-- Bounds after a colon, which is left out if there are none. -/
def colonBounds (bounds : Grammar Nat) : Grammar Unit := do
  if ← peek (.sign ":") then
    let (count, tokens) ← captured do
      sign ":"
      bounds
    if count ≠ 0 then write tokens

def markableBound (parts : Parts) : Grammar Unit := discard (parts.bound false true)

def endsParameter (ts : List Token) : Bool := ts.isEmpty || isSign "," ts || isSign ">" ts

def lifetimeParameter : Grammar Bool := do
  lifetime
  colonBounds (chainUntil endsParameter "+" lifetime)
  return true

def typeParameter (parts : Parts) : Grammar Bool := do
  let _ ← name
  colonBounds (chainUntil (fun ts => endsParameter ts || isSign "=" ts) "+" (markableBound parts))
  if ← acceptSign "=" then
    let _ ← parts.type true
  return false

def constParameter (parts : Parts) : Grammar Bool := do
  keyword "const"
  let _ ← name
  sign ":"
  let _ ← parts.type true
  if ← acceptSign "=" then constArgument parts
  return false

def parameter (parts : Parts) : Grammar Bool := do
  let _ ← attributes parts
  firstOf [.of [.lifetime] lifetimeParameter, .of [.name] (typeParameter parts),
    .of [.keyword "const"] (constParameter parts), ⟨[], isWord "_", return (← word).isEmpty⟩]

/-- The parameters of an item; tells whether it has any. -/
def parameters (parts : Parts) : Grammar Bool := do
  if ← peek (.sign "<") then
    return (← angled true (entries (parameter parts))) ≠ 0
  else return false

def boundParameter (parts : Parts) : Grammar Unit := do
  let _ ← attributes parts
  let _ ← firstOf [.of [.name] (typeParameter parts), .of [.lifetime] lifetimeParameter,
    .of [.keyword "const"] (constParameter parts)]

/-- The parameters of a type or bound; tells whether they are given. -/
def binder (parts : Parts) : Grammar Bool := do
  if ← acceptKeyword "for" then
    sign "<"
    let _ ← listUntil (isSign ">") "," (boundParameter parts)
    sign ">"
    return true
  else return false

/-- What a type captures, up to a closing angle bracket. -/
def captureEntriesWithin : Nat → Grammar (List Entry)
  | 0 => return []
  | n + 1 => do
    let (isLifetime?, tokens) ← captured do
      firstOf [.of [.lifetime] (do lifetime; return some true),
        ⟨[.name], fun ts => isName ts || isWord "Self" ts, do let _ ← word; return some false⟩,
        .of [.sign ">"] (return none)]
    match isLifetime? with
    | none => return []
    | some isLifetime =>
      let hasComma ← silently do
        firstOf [.of [.sign ","] (acceptSign ","), .of [.sign ">"] (return false)]
      let more ← if hasComma then captureEntriesWithin n else pure []
      return ⟨isLifetime, tokens, hasComma⟩ :: more

def capture : Grammar Unit := do
  keyword "use"
  let _ ← angled false do captureEntriesWithin ((← front).length + 1)

/-- Whether a bound is marked as constant, in brackets or not, where that may be. -/
def constMark (allowsConst : Bool) : Grammar Bool := do
  if ← peek (.group .bracket) then
    within .bracket (keyword "const")
    if !allowsConst then refuse .conditionalConst
    return true
  if ← acceptKeyword "const" then
    if !allowsConst then refuse .unconditionalConst
    return true
  return false

/-- A trait as a bound; tells whether it is marked as constant. -/
def traitBound (parts : Parts) (allowsConst : Bool) : Grammar Bool := do
  let isBound ← binder parts
  let isConst ← constMark allowsConst
  let isQuestioned ← acceptSign "?"
  let isBound ← if isQuestioned && !isBound then binder parts else pure isBound
  let shape ← path parts false
  if ← sees (startsParenthesized shape) then
    let _ ← parenthesizedArguments parts shape
  if isBound && isQuestioned then refuse .questionedBinder
  return isConst

def bound (parts : Parts) (allowsCapture allowsConst : Bool) : Grammar BoundShape := do
  if ← peek .lifetime then
    lifetime
    return .lifetime
  if ← peek (.keyword "use") then
    capture
    if !allowsCapture then refuse .captureHere
    return .capture
  let _ ← rawIf id do
    if ← peek (.group .parenthesis) then
      within .parenthesis (traitBound parts allowsConst)
    else traitBound parts allowsConst
  return .trait

/-- What ends a clause of bounds, whether or not more than one colon stands there. -/
def endsClause (colon : List Token → Bool) (ts : List Token) : Bool :=
  ts.isEmpty || isBraced ts || isSign "," ts || isSign ";" ts || colon ts || isSign "=" ts

def predicate (parts : Parts) : Grammar Unit := do
  if ← sees (fun ts => isLifetime ts && isSign ":" (skip 1 ts)) then
    lifetime
    sign ":"
    let _ ← chainUntil (endsClause (isSign ":")) "+" lifetime
  else
    let _ ← binder parts
    let _ ← parts.type true
    sign ":"
    let _ ← chainUntil (endsClause isColon) "+" (markableBound parts)

/-- A clause of bounds, which is left out if it holds none; tells whether it stands there. -/
def whereClause (parts : Parts) : Grammar Bool := do
  if !(← peek (.keyword "where")) then return false
  let (count, tokens) ← captured do
    keyword "where"
    if ← sees startsParameters then refuse .genericWhere
    chainUntil (endsClause isColon) "," (predicate parts)
  if count ≠ 0 then write tokens
  return true

end SourceMacros.Grammar

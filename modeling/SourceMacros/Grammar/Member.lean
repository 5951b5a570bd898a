import SourceMacros.Grammar.Signature

/-! What stands in traits, in implementations and in blocks of functions of other languages. -/

namespace SourceMacros.Grammar

def callStarts : List Kind :=
  [.name, .keyword "self", .keyword "super", .keyword "crate", .sign "::"]

/-- A semicolon follows a group unless it is in braces. -/
def endOfCall (delimiter : Delimiter) : Grammar Unit := do
  if delimiter ≠ .brace then sign ";"

def callMember : Grammar Unit := do
  barePath
  endOfCall (← callTail)

/-- A name for a type, with bounds before its definition and a clause before or after; tells whether it has
no bounds and a definition. -/
def typeAlias (parts : Parts) (clauseBefore clauseAfter : Bool) : Grammar Bool := do
  keyword "type"
  let _ ← name
  let _ ← parameters parts
  let isBounded ← peek (.sign ":")
  colonBounds (listUntil (fun ts => isWord "where" ts || isSign "=" ts || isSign ";" ts) "+"
    (markableBound parts))
  let hasClause ← if clauseBefore then whereClause parts else pure false
  let isDefined ← acceptSign "="
  if isDefined then
    let _ ← parts.type true
  if clauseAfter && !hasClause then
    let _ ← whereClause parts
  sign ";"
  return isDefined && !isBounded

/-- A constant; tells whether it has a value and nothing that depends on parameters. -/
def constant (parts : Parts) : Grammar Bool := do
  keyword "const"
  firstOf [.of [.name, .keyword "_"] (discard word)]
  let isGeneric ← peek (.sign "<")
  let _ ← parameters parts
  sign ":"
  let _ ← parts.type true
  let hasValue ← acceptSign "="
  if hasValue then
    let _ ← parts.expression true
  let hasClause ← whereClause parts
  sign ";"
  return hasValue && !isGeneric && !hasClause

def membersOf (parts : Parts) (member : Grammar Unit) : Grammar Unit :=
  within .brace do
    innerAttributes parts
    repeatWhile (return !(← atEnd)) member

def traitFunction (parts : Parts) : Grammar Unit := do
  signature parts false
  firstOf [.of [.group .brace] (body parts), .of [.sign ";"] (sign ";")]

def traitMember (parts : Parts) : Grammar Unit := do
  let _ ← attributes parts
  let isPublic ← visibility
  let isDefault ← acceptKeyword "default"
  firstOf (([⟨[.keyword "fn"], startsFunction false, traitFunction parts⟩,
    .of [.keyword "const"] (firstAfter 1 [
      .of [.name, .keyword "_"] (discard (constant parts)),
      .of [.keyword "async", .keyword "unsafe", .keyword "extern", .keyword "fn"]
        (traitFunction parts)]),
    .of [.keyword "type"] (discard (typeAlias parts false true))] : List (Choice Unit)) ++
    if isPublic || isDefault then [] else [.of callStarts callMember])

def implMember (parts : Parts) : Grammar Unit := do
  let _ ← attributes parts
  let isPublic ← visibility
  let isDefault ← sees fun ts => isWord "default" ts && !isSign "!" (skip 1 ts)
  if isDefault then keyword "default"
  firstOf ((if isDefault then [] else [⟨[.keyword "default"], fun _ => false, return⟩]) ++
    ([⟨[.keyword "fn"], startsFunction false, discard (function parts)⟩,
      .of [.keyword "const"] (discard (constant parts)),
      .of [.keyword "type"] (discard (typeAlias parts false true))] : List (Choice Unit)) ++
    if isPublic || isDefault then [] else [.of callStarts callMember])

def foreignFunction (parts : Parts) : Grammar Unit := do
  signature parts true
  if ← peek (.group .brace) then body parts
  else sign ";"

def startsForeignStatic (ts : List Token) : Bool :=
  isWord "static" ts || (isWord "unsafe" ts || isWord "safe" ts) && isWord "static" (skip 1 ts)

def foreignStatic (parts : Parts) : Grammar Unit := do
  if !(← acceptKeyword "unsafe") then
    let _ ← acceptKeyword "safe"
  keyword "static"
  let _ ← acceptKeyword "mut"
  let _ ← name
  sign ":"
  let _ ← parts.type true
  if ← acceptSign "=" then
    let _ ← parts.expression true
  sign ";"

def foreignMember (parts : Parts) : Grammar Unit := do
  let _ ← attributes parts
  let isPublic ← visibility
  firstOf (([⟨[.keyword "fn"], startsFunction true, foreignFunction parts⟩,
    ⟨[.keyword "static"], startsForeignStatic, foreignStatic parts⟩,
    .of [.keyword "type"] (discard (typeAlias parts true true))] : List (Choice Unit)) ++
    if isPublic then [] else [.of callStarts callMember])

end SourceMacros.Grammar

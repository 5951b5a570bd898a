import SourceMacros.Grammar.Expression

/-! Statements. -/

namespace SourceMacros.Grammar

def startsFunctionTail (ts : List Token) : Bool :=
  ["unsafe", "extern", "fn"].any (isWord · ts)

/-- Whether a constant or a function follows `const`, and no expression. -/
def startsConstItem (ts : List Token) : Bool :=
  let next := skip 1 ts
  isWord "const" ts &&
    !(isBraced next || isWord "static" next ||
      isWord "async" next && !startsFunctionTail (skip 2 ts) || isWord "move" next || isSign "|" next)

def startsItem (ts : List Token) : Bool :=
  let next := skip 1 ts
  ["pub", "extern", "use", "fn", "mod", "type", "struct", "enum", "trait", "impl", "macro"].any
      (isWord · ts) ||
    startsConstItem ts ||
    isWord "crate" ts && !isSign "::" next ||
    isWord "static" ts && (isWord "mut" next || isName next) ||
    isWord "unsafe" ts && !isBraced next ||
    isWord "async" ts && startsFunctionTail next ||
    isWord "union" ts && isName next ||
    isWord "auto" ts && isWord "trait" next ||
    isWord "default" ts && (isWord "unsafe" next || isWord "impl" next)

/-- What makes a statement, as far as what follows it depends on that. -/
inductive StatementShape where
  /-- A semicolon has to stand before the next statement. -/
  | open
  | closed
  | verbatim
  deriving DecidableEq

def localVariable (parts : Parts) : Grammar Unit := do
  keyword "let"
  let _ ← parts.pattern
  if ← acceptSign ":" then
    let _ ← parts.type true
  if ← acceptSign "=" then
    anyExpression parts
    let endsWithBrace := match (← get).written.getLast? with
      | some (.group .brace _) => true
      | _ => false
    if !endsWithBrace && (← peek (.keyword "else")) then
      keyword "else"
      block parts
  sign ";"

/-- Whether a macro is called in braces and nothing is done with what it gives. -/
def startsCallStatement (ts : List Token) : Bool :=
  let after := skip 2 ts
  isSign "!" ts && isBraced (skip 1 ts) && !isSignBut "." [".."] after && !isSign "?" after

def startsNamedCall (ts : List Token) : Bool :=
  isSign "!" ts && (isName (skip 1 ts) || isWord "try" (skip 1 ts))

def itemStatement (parts : Parts) : Grammar StatementShape := do
  return if (← parts.item) = .verbatim then .verbatim else .closed

def expressionStatement (parts : Parts) : Grammar StatementShape := do
  let shape ← parts.standing
  if ← acceptSign ";" then return .closed
  return if shape = .block || shape = .call .brace then .closed else .open

def statement (parts : Parts) : Grammar StatementShape := do
  let _ ← attributes parts
  let afterPath := (← ahead barePath).getD []
  if startsCallStatement afterPath then
    barePath
    let _ ← callTail
    let _ ← acceptSign ";"
    return .closed
  if ← peek (.keyword "let") then
    localVariable parts
    return .closed
  if startsNamedCall afterPath || (← sees startsItem) then itemStatement parts
  else expressionStatement parts

def statementsWithin (parts : Parts) : Nat → Grammar Unit
  | 0 => return
  | n + 1 => do
    repeatWhile (peek (.sign ";")) (sign ";")
    if ← atEnd then return
    let shape ← rawIf (· = .verbatim) (statement parts)
    if ← atEnd then return
    if shape = .open then refuse .missingSemicolon
    statementsWithin parts n

def statements (parts : Parts) : Grammar Unit := do
  statementsWithin parts ((← front).length + 1)

end SourceMacros.Grammar

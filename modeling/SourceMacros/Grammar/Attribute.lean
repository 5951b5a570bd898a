import SourceMacros.Grammar.Parts

/-! Attributes, visibility and bodies. -/

namespace SourceMacros.Grammar

def startsBareName (ts : List Token) : Bool :=
  isName ts || ["super", "self", "Self", "crate"].any (isWord · ts)

def bareNames : Nat → Grammar Unit
  | 0 => return
  | n + 1 => do
    let _ ← word
    if ← acceptSign "::" then
      if ← sees startsBareName then bareNames n
      else expected "path segment after `::`"

def barePath : Grammar Unit := do
  let _ ← acceptSign "::"
  if ← sees startsBareName then bareNames (← front).length
  else let _ ← name

def attributeValue (parts : Parts) : Grammar Unit := do
  let rest ← front
  match Kind.literal.split rest with
  | some (_, []) => let _ ← need .literal
  | _ =>
    if isSign "#" rest && isBracketed (skip 1 rest) then refuse .attributeInAttribute
    let _ ← parts.expression true

def bracketedAttribute (parts : Parts) : Grammar Unit :=
  within .bracket do
    if !(← acceptKeyword "unsafe") then barePath
    if ← sees (fun ts => isParenthesized ts || isBracketed ts || isBraced ts) then
      let _ ← anyGroup
    else if ← acceptSign "=" then
      attributeValue parts

/-- The attributes before something; tells whether there are any. -/
def attributes (parts : Parts) : Grammar Bool := do
  let isMarked ← peek (.sign "#")
  repeatWhile (peek (.sign "#")) do
    sign "#"
    bracketedAttribute parts
  return isMarked

def innerAttributes (parts : Parts) : Grammar Unit :=
  repeatWhile (sees fun ts => isSign "#" ts && isSign "!" (skip 1 ts)) do
    sign "#"
    sign "!"
    bracketedAttribute parts

/-- Whether a group after `pub` says for whom by a single word. -/
def isScope : List Token → Bool
  | [.word text] => ["crate", "self", "super"].contains text
  | _ => false

def visibility : Grammar Bool := do
  if !(← acceptKeyword "pub") then return false
  match ← front with
  | .group .parenthesis inner :: _ =>
    if isScope inner then
      let _ ← anyGroup
    else if isWord "in" inner then
      within .parenthesis do
        keyword "in"
        barePath
  | _ => pure ()
  return true

def block (parts : Parts) : Grammar Unit := within .brace parts.statements

def body (parts : Parts) : Grammar Unit :=
  within .brace do
    innerAttributes parts
    parts.statements

/-- A call whose path is read: an exclamation mark and a group. -/
def callTail : Grammar Delimiter := do
  sign "!"
  anyGroup

def startsCallTail (ts : List Token) : Bool := isSign "!" ts && !isSign "!=" ts

def abi : Grammar Unit := do
  if ← acceptKeyword "extern" then
    let _ ← accept .stringLiteral

end SourceMacros.Grammar

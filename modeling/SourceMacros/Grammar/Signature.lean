import SourceMacros.Grammar.Statement
import SourceMacros.Grammar.Types

/-! Functions: what they take, what they give, and their bodies. -/

namespace SourceMacros.Grammar

/-- Whether a function follows; where functions of other languages stand, it may be marked as safe. -/
def startsFunction (allowsSafe : Bool) (ts : List Token) : Bool :=
  let passed := fun text ts => if isWord text ts then skip 1 ts else ts
  let ts := passed "async" (passed "const" ts)
  let ts := if allowsSafe && isWord "safe" ts then skip 1 ts else passed "unsafe" ts
  let ts :=
    if isWord "extern" ts then
      if Kind.stringLiteral.stands (skip 1 ts) then skip 2 ts else skip 1 ts
    else ts
  isWord "fn" ts

def receiver (parts : Parts) : Grammar Unit := do
  let isReference ← acceptSign "&"
  if isReference then
    let _ ← accept .lifetime
  let _ ← acceptKeyword "mut"
  keyword "self"
  if !isReference then
    if ← acceptSign ":" then
      let _ ← parts.type true

inductive ArgumentShape where
  | receiver
  | typed
  | variadic
  deriving DecidableEq

/-- An argument of a function. One whose name is left out takes the place of all of them. -/
def argument (parts : Parts) : Grammar ArgumentShape := do
  if (← attempt (receiver parts)).isSome then return .receiver
  if ← sees (fun ts => isName ts && isSign "<" (skip 1 ts)) then
    write [.word "_", .lone ':']
    let _ ← parts.type true
    return .typed
  let _ ← parts.pattern
  sign ":"
  if ← acceptSign "..." then return .variadic
  let _ ← parts.type true
  return .typed

def argumentsWithin (parts : Parts) : Bool → Bool → Nat → Grammar Unit
  | _, _, 0 => return
  | isFirst, hasReceiver, n + 1 => do
    if ← atEnd then return
    let _ ← attributes parts
    let shape ← if ← acceptSign "..." then pure .variadic else argument parts
    if shape = .receiver then
      if hasReceiver then refuse .secondReceiver
      if !isFirst then refuse .lateReceiver
    if ← atEnd then return
    sign ","
    if shape ≠ .variadic then argumentsWithin parts false (hasReceiver || shape = .receiver) n

def signature (parts : Parts) (allowsSafe : Bool) : Grammar Unit := do
  let _ ← acceptKeyword "const"
  let _ ← acceptKeyword "async"
  if !(← acceptKeyword "unsafe") && allowsSafe then
    let _ ← acceptKeyword "safe"
  abi
  keyword "fn"
  let _ ← name
  let _ ← parameters parts
  within .parenthesis do
    argumentsWithin parts true false ((← front).length + 1)
  let _ ← returnType parts true
  let _ ← whereClause parts

/-- A function whose body may be left out; tells whether it is. -/
def function (parts : Parts) : Grammar Bool := do
  signature parts false
  if ← acceptSign ";" then return true
  body parts
  return false

end SourceMacros.Grammar

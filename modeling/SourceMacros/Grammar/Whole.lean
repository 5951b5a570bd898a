import SourceMacros.Grammar.Item

/-! The item that all of some tokens make. -/

namespace SourceMacros

namespace Token

mutual

def count : Token → Nat
  | .group _ inner => countAll inner + 1
  | _ => 1

def countAll : List Token → Nat
  | [] => 0
  | t :: ts => t.count + countAll ts

end

end Token

namespace Grammar

/-- The readers of parts, nested at most as deeply as given. -/
def partsWithin : Nat → Parts
  | 0 =>
    { type := fun _ => throw .unexpected
      bound := fun _ _ => throw .unexpected
      expression := fun _ => throw .unexpected
      operand := fun _ => throw .unexpected
      operation := fun _ _ _ => throw .unexpected
      standing := throw .unexpected
      pattern := throw .unexpected
      statements := throw .unexpected
      item := throw .unexpected
      namedField := throw .unexpected
      useTree := fun _ => throw .unexpected }
  | n + 1 =>
    { type := fun allowsSum c => type (partsWithin n) allowsSum c
      bound := fun allowsCapture allowsConst c => bound (partsWithin n) allowsCapture allowsConst c
      expression := fun structs c => expression (partsWithin n) structs c
      operand := fun structs c => operand (partsWithin n) structs c
      operation := fun left structs base c => operation (partsWithin n) left structs base c
      standing := fun c => standing (partsWithin n) c
      pattern := fun c => pattern (partsWithin n) c
      statements := fun c => statements (partsWithin n) c
      item := fun c => item (partsWithin n) c
      namedField := fun c => namedField (partsWithin n) c
      useTree := fun allowsRoot c => useTree (partsWithin n) allowsRoot c }

/-- More than any nesting of parts needs, as each few of them take a token. -/
def depthOf (tokens : List Token) : Nat := 16 * (Token.countAll tokens + 1)

end Grammar

/-- An item: what it is, and its tokens as they are written anew. -/
structure Item where
  shape : Grammar.ItemShape
  tokens : List Token

/-- The item that all of the tokens make. That a group holds too much is told only where all else is well. -/
def Item.ofTokens (tokens : List Token) : Except GrammarError Item := do
  let parts := Grammar.partsWithin (Grammar.depthOf tokens)
  let (shape, c) ← (Grammar.markedItem parts).run { rest := tokens }
  match c.stray with
  | some delimiter => throw (.stray delimiter)
  | none =>
    if c.rest.isEmpty then return { shape, tokens := c.written }
    else throw .unexpected

end SourceMacros

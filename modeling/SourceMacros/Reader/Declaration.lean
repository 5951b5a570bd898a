import SourceMacros.Reader.Expression
import SourceMacros.Declaration

/-! Reading of declarations. -/

namespace SourceMacros.Reader

/-- An attribute, which has no gap between its sign and its name. -/
def mark : Reader Attribute := do
  symbol '@'
  return ⟨← identifier⟩

def modifier : Reader Modifier := do
  match Modifier.ofKeyword? (← name) with
  | some m => return m
  | none => miss

def bodyKind : Reader BodyKind :=
  (do keyword BodyKind.struct.keyword; return .struct) <|>
    (do keyword BodyKind.reference.keyword; return .reference)

def bindingKeyword : Reader Bool :=
  (do keyword "let"; return true) <|> (do keyword "var"; return false)

def inType (c : Char) : Bool :=
  !(c == '\n' || c == '\r' || c == ';' || c == '=' || c == '{' || c == '}')

def typeText : Reader String := do
  spaces
  fun s =>
    if (s.takeWhile inType).isEmpty then .miss s
    else .done (String.ofList (Text.trimEnd (s.takeWhile inType))) (s.dropWhile inType)

def binding (attributes : List Attribute) (modifiers : List Modifier) : Reader Declaration := do
  let isConstant ← bindingKeyword
  let name ← name
  let typeText ← optional (do symbol ':'; typeText)
  let initializer ← optional (do symbol '='; expression)
  return .binding { name, typeText, initializer, isConstant, modifiers, attributes }

def isMemberGap (c : Char) : Bool := c == ';' || Text.isGap c

/-- The members up to the closing brace, with any gaps and semicolons around them. -/
def membersWithin (inner : Reader Declaration) : Nat → Reader (List Declaration)
  | 0 => miss
  | n + 1 => fun s =>
    match s.dropWhile isMemberGap with
    | '}' :: r => .done [] r
    | r =>
      (do
        let member ← inner
        let more ← membersWithin inner n
        return member :: more : Reader (List Declaration)) r

def memberBlock (inner : Reader Declaration) : Reader (List Declaration) := do
  symbol '{'
  fun s => membersWithin inner (s.length + 1) s

def declarationShape (inner : Reader Declaration) : Reader Declaration := do
  let attributes ← many mark
  let modifiers ← many modifier
  match ← optional bodyKind with
  | some kind =>
    let name ← name
    let members ← memberBlock inner
    return .body kind name modifiers attributes members
  | none => binding attributes modifiers

def declarationWithin : Nat → Reader Declaration
  | 0 => miss
  | levels + 1 => declarationShape (declarationWithin levels)

/-- No declaration nests deeper than its text is long. -/
def declaration : Reader Declaration := fun s => declarationWithin (s.length + 1) s

end SourceMacros.Reader

import SourceMacros.Grammar.Basic
import SourceMacros.Marker.Error
import SourceMacros.Role
import SourceMacros.Text.Identifier

/-! The arguments that mark a struct as a macro: its name and its role, in either order. -/

namespace SourceMacros.Marker

def need (k : Kind) (tokens : List Token) : Except MarkerError (List Token × List Token) :=
  match k.split tokens with
  | some (read, rest) => .ok (read, rest)
  | none => .error (.grammar (k.absence tokens))

def identifier (tokens : List Token) : Except MarkerError (String × List Token) := do
  let (read, rest) ← need .name tokens
  return (Token.loneWord read, rest)

def sign (text : String) (tokens : List Token) : Except MarkerError (List Token) := do
  return (← need (.sign text) tokens).2

inductive Element where
  | name (spelled : Token)
  | role (role : Role)

def nameElement : List Token → Except MarkerError (Element × List Token)
  | [] => .error (.grammar (Kind.stringLiteral.absence []))
  | t :: rest =>
    match t.stringValue? with
    | none => .error (.grammar (Kind.stringLiteral.absence (t :: rest)))
    | some value =>
      if Text.isIdentifier value then .ok (.name t, rest) else .error .invalidName

def roleElement (tokens : List Token) : Except MarkerError (Element × List Token) := do
  let (word, rest) ← identifier tokens
  match Role.all.find? (·.name == word) with
  | some role => return (.role role, rest)
  | none => throw .unknownRole

/-- A key, an equals sign, and what the key calls for. -/
def element (tokens : List Token) : Except MarkerError (Element × List Token) := do
  let (key, rest) ← identifier tokens
  let rest ← sign "=" rest
  if key = "name" then nameElement rest
  else if key = "role" then roleElement rest
  else throw .unknownKey

/-- Elements with commas between them; a comma may stand after the last. -/
def elementsWithin : Nat → List Token → Except MarkerError (List Element)
  | 0, _ => .ok []
  | _, [] => .ok []
  | n + 1, tokens => do
    let (first, rest) ← element tokens
    if rest.isEmpty then return [first]
    else return first :: (← elementsWithin n (← sign "," rest))

def elements (tokens : List Token) : Except MarkerError (List Element) :=
  elementsWithin tokens.length tokens

/-- What the elements say together, each of the keys once at most. -/
structure Gathered where
  name : Option Token := none
  role : Option Role := none

def gather : Gathered → List Element → Except MarkerError Gathered
  | known, [] => .ok known
  | known, .name spelled :: es =>
    if known.name.isSome then .error .repeatedName else gather { known with name := some spelled } es
  | known, .role role :: es =>
    if known.role.isSome then .error .repeatedRole else gather { known with role := some role } es

structure Arguments where
  name : Token
  role : Role

def Arguments.ofElements (es : List Element) : Except MarkerError Arguments := do
  let known ← gather {} es
  match known.name, known.role with
  | none, _ => throw .missingName
  | some _, none => throw .missingRole
  | some name, some role => return ⟨name, role⟩

def Arguments.ofTokens (tokens : List Token) : Except MarkerError Arguments := do
  Arguments.ofElements (← elements tokens)

end SourceMacros.Marker

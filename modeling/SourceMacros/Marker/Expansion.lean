import SourceMacros.Grammar.Whole
import SourceMacros.Marker.Arguments

/-! What a marked struct becomes: the struct itself, and the code that makes it an entry in a table of
macros. -/

namespace SourceMacros.Marker

def path (words : List String) : List Token :=
  words.flatMap fun word => Token.marks [':', ':'] ++ [Token.word word]

def crateName : String := "macros_expand"

def nameConstant (a : Arguments) : List Token :=
  [.word "const", .word "NAME", .lone ':', .lone '&', .mark '\'' true, .word "static", .word "str",
    .lone '=', a.name, .lone ';']

def rolePath (role : Role) : List Token := path [crateName, "MacroRole", role.title]

def roleConstant (a : Arguments) : List Token :=
  [Token.word "const", .word "ROLE", .lone ':'] ++ path [crateName, "MacroRole"] ++ [Token.lone '='] ++
    rolePath a.role ++ [Token.lone ';']

def expansionPath (role : Role) : List Token :=
  [Token.lone '<', .word "Self", .word "as"] ++ path [crateName, role.title ++ "Macro"] ++ [Token.lone '>'] ++
    path ["expansion"]

def entryValue (a : Arguments) : List Token :=
  path [crateName, "MacroEntry", a.role.title] ++
    [Token.group .brace
      ([Token.word "name", .lone ':', a.name, .lone ',', .word "expand", .lone ':'] ++
        expansionPath a.role ++ [Token.lone ','])]

def entryFunction (a : Arguments) : List Token :=
  [Token.word "fn", .word "entry", .group .parenthesis []] ++ Token.marks ['-', '>'] ++
    path [crateName, "MacroEntry"] ++ [Token.group .brace (entryValue a)]

def implementation (a : Arguments) (name : String) : List Token :=
  [Token.word "impl"] ++ path [crateName, "MacroDeclaration"] ++ [Token.word "for", .word name,
    .group .brace (nameConstant a ++ roleConstant a ++ entryFunction a)]

/-- The name of a struct without fields and parameters. -/
def markedName (item : Item) : Except MarkerError String :=
  match item.shape with
  | .struct name isGeneric shape =>
    if shape ≠ .unit then .error .notUnit
    else if isGeneric then .error .generic
    else .ok name
  | _ => .error .notStruct

/-- The item itself, and then the code that the arguments and its name call for. -/
def mark (a : Arguments) (item : Item) : Except MarkerError (List Token) := do
  return item.tokens ++ implementation a (← markedName item)

/-- The arguments are looked at before the item. -/
def expand (arguments item : List Token) : Except MarkerError (List Token) := do
  let a ← Arguments.ofTokens arguments
  mark a (← (Item.ofTokens item).mapError .grammar)

/-- The text of the expansion, unless one of the texts does not consist of tokens. -/
def expandText (arguments item : String) : Option (Except MarkerError String) := do
  let arguments ← Token.lex arguments
  let item ← Token.lex item
  return (expand arguments item).map Token.renderAll

end SourceMacros.Marker

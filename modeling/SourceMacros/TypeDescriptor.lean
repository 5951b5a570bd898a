import SourceMacros.SyntaxError
import SourceMacros.Text.Blank
import SourceMacros.Text.Identifier

/-! Descriptions of types: names, optional types `T?`, lists `[T]` and dictionaries `[K: V]`. -/

namespace SourceMacros

inductive PrimitiveType where
  | string
  | int
  | double
  | bool
  | float
  | uuid
  | date
  deriving DecidableEq

namespace PrimitiveType

def all : List PrimitiveType := [.string, .int, .double, .bool, .float, .uuid, .date]

def name : PrimitiveType → String
  | .string => "String"
  | .int => "Int"
  | .double => "Double"
  | .bool => "Bool"
  | .float => "Float"
  | .uuid => "UUID"
  | .date => "Date"

def ofName? (name : String) : Option PrimitiveType := all.find? (·.name == name)

end PrimitiveType

inductive TypeDescriptor where
  | primitive (type : PrimitiveType)
  | custom (name : String)
  | optional (wrapped : TypeDescriptor)
  | array (element : TypeDescriptor)
  | dictionary (key value : TypeDescriptor)
  deriving DecidableEq

namespace TypeDescriptor

def written : TypeDescriptor → List Char
  | primitive type => type.name.toList
  | custom name => name.toList
  | optional wrapped => wrapped.written ++ ['?']
  | array element => '[' :: (element.written ++ [']'])
  | dictionary key value => '[' :: (key.written ++ ':' :: ' ' :: (value.written ++ [']']))

def render (t : TypeDescriptor) : String := String.ofList t.written

def unbracket : List Char → Option (List Char)
  | '[' :: r => if r.getLast? = some ']' then some r.dropLast else none
  | _ => none

def unquestion (text : List Char) : Option (List Char) :=
  if text.getLast? = some '?' then some text.dropLast else none

/-- Splits at the first colon outside brackets; brackets that close nothing do not count. -/
def splitColon : Nat → List Char → Option (List Char × List Char)
  | _, [] => none
  | depth, c :: r =>
    if depth = 0 ∧ c = ':' then some ([], r)
    else
      let depth := if c = '[' then depth + 1 else if c = ']' then depth - 1 else depth
      (splitColon depth r).map fun p => (c :: p.1, p.2)

def ofName (name : List Char) : Except SyntaxError TypeDescriptor :=
  match PrimitiveType.ofName? (String.ofList name) with
  | some type => .ok (.primitive type)
  | none =>
    if Text.isIdentifierText name then .ok (.custom (String.ofList name))
    else .error (.invalidType (String.ofList name))

/-- Brackets come before a question mark, and the key of a dictionary before its value. A text that
nests too deeply is refused as a whole. -/
def parseWithin (whole : List Char) : Nat → List Char → Except SyntaxError TypeDescriptor
  | 0, _ => .error (.invalidType (String.ofList (Text.trim whole)))
  | levels + 1, text =>
    let text := Text.trim text
    match unbracket text with
    | some inner =>
      match splitColon 0 inner with
      | some (key, value) => do
        let key ← parseWithin whole levels key
        let value ← parseWithin whole levels value
        return .dictionary key value
      | none => return .array (← parseWithin whole levels inner)
    | none =>
      match unquestion text with
      | some inner => return .optional (← parseWithin whole levels inner)
      | none => ofName text

def parse (text : String) : Except SyntaxError TypeDescriptor :=
  parseWithin text.toList (Nesting.limit + 1) text.toList

end TypeDescriptor
end SourceMacros

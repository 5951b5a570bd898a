import SourceMacros.Declaration
import SourceMacros.Expression.Json

/-! Declarations, their attributes and modifiers as JSON. -/

namespace SourceMacros

open Json (Fault Draft)

namespace Modifier

def toJson (m : Modifier) : Json := .string m.keyword

def keywords : List String := all.map keyword

def ofJson? (j : Json) : Option Modifier := do all[← j.word? keywords]?

def ofDraft (levels : Nat) (d : Draft) : Except Fault Modifier := do
  Draft.required all[← d.readWord keywords levels]?

end Modifier

namespace Attribute

def toJson (a : Attribute) : Json := .object [("name", .string a.name)]

def ofJson? (j : Json) : Option Attribute := do
  let [some name] ← j.fields? ["name"] | none
  return ⟨← name.string?⟩

def fields : List (Draft.Field (Option String)) :=
  [⟨"name", fun _ d _ => do return some (← d.readString)⟩]

def ofDraft (levels : Nat) (d : Draft) : Except Fault Attribute := do
  return ⟨← Draft.required (← d.readRecord fields false none levels)⟩

end Attribute

def Binding.toJson (b : Binding) : Json :=
  .object [("kind", .string "variable"), ("name", .string b.name),
    ("type_annotation", .ofOption .string b.typeText),
    ("initializer", .ofOption Expression.toJson b.initializer),
    ("is_constant", .bool b.isConstant),
    ("modifiers", .array (b.modifiers.map Modifier.toJson)),
    ("attributes", .array (b.attributes.map Attribute.toJson))]

def Binding.ofJson? (j : Json) : Option Binding := do
  let [some name, typeText, initializer, some isConstant, some modifiers, some attributes] ←
    j.fields? ["name", "type_annotation", "initializer", "is_constant", "modifiers", "attributes"]
    | none
  return {
    name := ← name.string?
    typeText := ← Json.absentOr? Json.string? typeText
    initializer := ← Json.absentOr? Expression.ofJson? initializer
    isConstant := ← isConstant.bool?
    modifiers := ← modifiers.list? Modifier.ofJson?
    attributes := ← attributes.list? Attribute.ofJson? }

namespace BodyKind

def kind : BodyKind → String
  | .struct => "struct"
  | .reference => "class_like"

/-- The fields in the order in which they come where they have no names. -/
def fieldNames : BodyKind → List String
  | .struct => ["name", "modifiers", "attributes", "members"]
  | .reference => ["name", "members", "attributes", "modifiers"]

end BodyKind

mutual

def Declaration.toJson : Declaration → Json
  | .binding b => b.toJson
  | .body kind name modifiers attributes members =>
    .object [("kind", .string kind.kind), ("name", .string name),
      ("modifiers", .array (modifiers.map Modifier.toJson)),
      ("attributes", .array (attributes.map Attribute.toJson)),
      ("members", .array (declarationsToJson members))]

def declarationsToJson : List Declaration → List Json
  | [] => []
  | d :: ds => d.toJson :: declarationsToJson ds

end

namespace Declaration

def kinds : List String := ["variable", BodyKind.struct.kind, BodyKind.reference.kind]

def bodyOf? (inner : Json → Option Declaration) (kind : BodyKind)
    (name modifiers attributes members : Json) : Option Declaration := do
  return .body kind (← name.string?) (← modifiers.list? Modifier.ofJson?)
    (← attributes.list? Attribute.ofJson?) (← members.list? inner)

def ofKind? (inner : Json → Option Declaration) : Nat → Json → Option Declaration
  | 0, j => (Binding.ofJson? j).map .binding
  | 1, j => do
    let [some name, some modifiers, some attributes, some members] ←
      j.fields? BodyKind.struct.fieldNames | none
    bodyOf? inner .struct name modifiers attributes members
  | _, j => do
    let [some name, some members, some attributes, some modifiers] ←
      j.fields? BodyKind.reference.fieldNames | none
    bodyOf? inner .reference name modifiers attributes members

def ofJsonWithin : Nat → Json → Option Declaration
  | 0, _ => none
  | depth + 1, j => do
    let (kind, fields) ← j.tagged? "kind" kinds
    ofKind? (ofJsonWithin depth) kind fields

/-- No declaration nests deeper than the value that spells it. -/
def ofJson? (j : Json) : Option Declaration := ofJsonWithin (j.depth + 1) j

def ofDraft (levels : Nat) (d : Draft) : Except Fault Declaration := do
  let (kind, fields) ← d.readTagged "kind" kinds levels
  Draft.required (ofKind? (ofJsonWithin fields.depth) kind fields)

end Declaration
end SourceMacros

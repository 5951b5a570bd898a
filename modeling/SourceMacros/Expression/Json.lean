import SourceMacros.Invocation
import SourceMacros.Json.Decode

/-! Expressions and macro calls as JSON: the shape is told by the member `kind`. -/

namespace SourceMacros

open Json (Fault Draft)

/-- An object that tells its kind and holds one more member. -/
def Json.ofKind (kind name : String) (value : Json) : Json :=
  .object [("kind", .string kind), (name, value)]

mutual

def Expression.toJson : Expression → Json
  | .integer text => .ofKind "integer_literal" "text" (.string text)
  | .string segments => .ofKind "string_literal" "segments" (.array (segmentsToJson segments))
  | .dictionary entries => .ofKind "dictionary_literal" "entries" (.array (entriesToJson entries))
  | .identifier name => .ofKind "identifier" "name" (.string name)
  | .call callee arguments =>
    .object [("kind", .string "function_call"), ("callee", callee.toJson),
      ("arguments", .array (argumentsToJson arguments))]
  | .other text => .ofKind "other" "text" (.string text)

def segmentsToJson : List Segment → List Json
  | [] => []
  | .text value :: segments => .ofKind "text" "value" (.string value) :: segmentsToJson segments
  | .interpolation value :: segments =>
    .ofKind "interpolation" "value" value.toJson :: segmentsToJson segments

def entriesToJson : List Entry → List Json
  | [] => []
  | ⟨key, value⟩ :: entries =>
    .object [("key", key.toJson), ("value", value.toJson)] :: entriesToJson entries

def argumentsToJson : List Argument → List Json
  | [] => []
  | ⟨label, value⟩ :: arguments =>
    .object [("label", .ofOption .string label), ("expression", value.toJson)] ::
      argumentsToJson arguments

end

/-- A field that may be absent as well as null. -/
def Json.absentOr? {α : Type} (decode : Json → Option α) : Option Json → Option (Option α)
  | none => some none
  | some j => j.optional? decode

def Segment.ofJson? (inner : Json → Option Expression) (j : Json) : Option Segment := do
  let [some kind, some value] ← j.fields? ["kind", "value"] | none
  match ← kind.word? ["text", "interpolation"] with
  | 0 => return .text (← value.string?)
  | _ => return .interpolation (← inner value)

def Entry.ofJson? (inner : Json → Option Expression) (j : Json) : Option Entry := do
  let [some key, some value] ← j.fields? ["key", "value"] | none
  return ⟨← inner key, ← inner value⟩

def Argument.ofJson? (inner : Json → Option Expression) (j : Json) : Option Argument := do
  let [label, some value] ← j.fields? ["label", "expression"] | none
  return ⟨← Json.absentOr? Json.string? label, ← inner value⟩

namespace Expression

def kinds : List String :=
  ["integer_literal", "string_literal", "dictionary_literal", "identifier", "function_call", "other"]

def ofKind? (inner : Json → Option Expression) : Nat → Json → Option Expression
  | 0, j => do
    let [some text] ← j.fields? ["text"] | none
    return .integer (← text.string?)
  | 1, j => do
    let [some segments] ← j.fields? ["segments"] | none
    return .string (← segments.list? (Segment.ofJson? inner))
  | 2, j => do
    let [some entries] ← j.fields? ["entries"] | none
    return .dictionary (← entries.list? (Entry.ofJson? inner))
  | 3, j => do
    let [some name] ← j.fields? ["name"] | none
    return .identifier (← name.string?)
  | 4, j => do
    let [some callee, some arguments] ← j.fields? ["callee", "arguments"] | none
    return .call (← inner callee) (← arguments.list? (Argument.ofJson? inner))
  | _, j => do
    let [some text] ← j.fields? ["text"] | none
    return .other (← text.string?)

def ofJsonWithin : Nat → Json → Option Expression
  | 0, _ => none
  | depth + 1, j => do
    let (kind, fields) ← j.tagged? "kind" kinds
    ofKind? (ofJsonWithin depth) kind fields

/-- No expression nests deeper than the value that spells it. -/
def ofJson? (j : Json) : Option Expression := ofJsonWithin (j.depth + 1) j

def ofDraft (levels : Nat) (d : Draft) : Except Fault Expression := do
  let (kind, fields) ← d.readTagged "kind" kinds levels
  Draft.required (ofKind? (ofJsonWithin fields.depth) kind fields)

end Expression

namespace Argument

structure Known where
  label : Option String := none
  value : Option Expression := none

def fields : List (Draft.Field Known) :=
  [⟨"label", fun _ d known => do
      return { known with label := ← d.readOptional Draft.readString }⟩,
    ⟨"expression", fun levels d known => do
      return { known with value := some (← Expression.ofDraft levels d) }⟩]

def ofDraft (levels : Nat) (d : Draft) : Except Fault Argument := do
  let known ← d.readRecord fields false {} levels
  return ⟨known.label, ← Draft.required known.value⟩

end Argument

namespace Invocation

def toJson (invocation : Invocation) : Json :=
  .object [("name", .string invocation.name),
    ("arguments", .array (argumentsToJson invocation.arguments))]

structure Known where
  name : Option String := none
  arguments : Option (List Argument) := none

def fields : List (Draft.Field Known) :=
  [⟨"name", fun _ d known => do return { known with name := some (← d.readString) }⟩,
    ⟨"arguments", fun levels d known => do
      return { known with arguments := some (← d.readList Argument.ofDraft levels) }⟩]

def ofDraft (levels : Nat) (d : Draft) : Except Fault Invocation := do
  let known ← d.readRecord fields false {} levels
  return ⟨← Draft.required known.name, ← Draft.required known.arguments⟩

end Invocation
end SourceMacros

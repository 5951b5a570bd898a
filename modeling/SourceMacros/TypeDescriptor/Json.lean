import SourceMacros.TypeDescriptor
import SourceMacros.Json.Decode

/-! Descriptions of types as JSON: the member `kind` tells the shape and `of` holds what it is made
of. -/

namespace SourceMacros

open Json (Fault Draft)

namespace PrimitiveType

/-- The name in JSON, which is the name of the type but for its case. -/
def key : PrimitiveType → String
  | .uuid => "Uuid"
  | type => type.name

def keys : List String := all.map key

def toJson (type : PrimitiveType) : Json := .string type.key

def ofJson? (j : Json) : Option PrimitiveType := do all[← j.word? keys]?

def ofDraft (levels : Nat) (d : Draft) : Except Fault PrimitiveType := do
  Draft.required all[← d.readWord keys levels]?

end PrimitiveType

namespace TypeDescriptor

def kinds : List String := ["primitive", "custom", "optional", "array", "dictionary"]

def object (kind : String) (content : Json) : Json :=
  .object [("kind", .string kind), ("of", content)]

def toJson : TypeDescriptor → Json
  | .primitive type => object "primitive" type.toJson
  | .custom name => object "custom" (.string name)
  | .optional wrapped => object "optional" wrapped.toJson
  | .array element => object "array" element.toJson
  | .dictionary key value => object "dictionary" (.array [key.toJson, value.toJson])

def ofContent? (inner : Json → Option TypeDescriptor) : Nat → Json → Option TypeDescriptor
  | 0, j => (PrimitiveType.ofJson? j).map .primitive
  | 1, j => j.string?.map .custom
  | 2, j => (inner j).map .optional
  | 3, j => (inner j).map .array
  | _, .array [key, value] => do return .dictionary (← inner key) (← inner value)
  | _, _ => none

def ofJsonWithin : Nat → Json → Option TypeDescriptor
  | 0, _ => none
  | depth + 1, j => do
    let [some kind, some content] ← j.fields? ["kind", "of"] | none
    ofContent? (ofJsonWithin depth) (← kind.word? kinds) content

/-- No description nests deeper than the value that spells it. -/
def ofJson? (j : Json) : Option TypeDescriptor := ofJsonWithin (j.depth + 1) j

def dictionaryOf (inner : Draft → Except Fault TypeDescriptor) :
    List Draft → Json.Stop → Except Fault TypeDescriptor
  | [], stop => do
    stop.read
    throw .shape
  | [key], stop => do
    let _ ← inner key
    stop.read
    throw .shape
  | key :: value :: items, stop => do
    let key ← inner key
    let value ← inner value
    Draft.finish items stop
    return .dictionary key value

def readContent (inner : Nat → Draft → Except Fault TypeDescriptor) (levels : Nat) :
    Nat → Draft → Except Fault TypeDescriptor
  | 0, d => do return .primitive (← PrimitiveType.ofDraft levels d)
  | 1, d => do return .custom (← d.readString)
  | 2, d => do return .optional (← inner levels d)
  | 3, d => do return .array (← inner levels d)
  | _, .array items stop => do
    let levels ← Draft.enter levels
    dictionaryOf (inner levels) items stop
  | _, d => .error d.misfit

/-- The members that are still to come once it is known what the value is. -/
def rest : List (Option String × Draft) → Except Fault Unit
  | [] => .ok ()
  | (none, _) :: _ => .error .malformed
  | (some name, d) :: ds =>
    if name = "kind" || name = "of" then .error .shape
    else do
      d.skip
      rest ds

def afterKind (inner : Nat → Draft → Except Fault TypeDescriptor) (levels kind : Nat)
    (stop : Json.Stop) : List (Option String × Draft) → Except Fault TypeDescriptor
  | [] => do
    stop.read
    throw .shape
  | (none, _) :: _ => .error .malformed
  | (some name, d) :: ds =>
    if name = "kind" then .error .shape
    else if name = "of" then do
      let type ← readContent inner levels kind d
      rest ds
      return type
    else do
      d.skip
      afterKind inner levels kind stop ds

/-- The members after the content, which waits for the kind as a complete value. -/
def afterContent (levels : Nat) (content : Json) (stop : Json.Stop) :
    List (Option String × Draft) → Except Fault TypeDescriptor
  | [] => do
    stop.read
    throw .shape
  | (none, _) :: _ => .error .malformed
  | (some name, d) :: ds =>
    if name = "of" then .error .shape
    else if name = "kind" then do
      let kind ← d.readWord kinds levels
      let type ← Draft.required (ofContent? ofJson? kind content)
      rest ds
      return type
    else do
      d.skip
      afterContent levels content stop ds

/-- The members, in which kind and content come in either order. -/
def ofMembers (inner : Nat → Draft → Except Fault TypeDescriptor) (levels : Nat)
    (stop : Json.Stop) : List (Option String × Draft) → Except Fault TypeDescriptor
  | [] => do
    stop.read
    throw .shape
  | (none, _) :: _ => .error .malformed
  | (some name, d) :: ds =>
    if name = "kind" then do
      afterKind inner levels (← d.readWord kinds levels) stop ds
    else if name = "of" then do
      afterContent levels (← d.value levels) stop ds
    else do
      d.skip
      ofMembers inner levels stop ds

def ofItems (inner : Nat → Draft → Except Fault TypeDescriptor) (levels : Nat)
    (stop : Json.Stop) : List Draft → Except Fault TypeDescriptor
  | [] => do
    stop.read
    throw .shape
  | [d] => do
    let _ ← d.readWord kinds levels
    stop.read
    throw .shape
  | d :: content :: items => do
    let kind ← d.readWord kinds levels
    let type ← readContent inner levels kind content
    Draft.finish items stop
    return type

def ofDraftWithin : Nat → Nat → Draft → Except Fault TypeDescriptor
  | depth + 1, levels, .object ds stop => do
    let levels ← Draft.enter levels
    let type ← ofMembers (ofDraftWithin depth) levels stop ds
    stop.read
    return type
  | depth + 1, levels, .array items stop => do
    let levels ← Draft.enter levels
    ofItems (ofDraftWithin depth) levels stop items
  | 0, _, _ => .error .malformed
  | _ + 1, _, d => .error d.misfit

/-- Every description is an object or array of its own, so `levels` bounds how deep they nest. -/
def ofDraft (levels : Nat) (d : Draft) : Except Fault TypeDescriptor :=
  ofDraftWithin (levels + 1) levels d

end TypeDescriptor
end SourceMacros

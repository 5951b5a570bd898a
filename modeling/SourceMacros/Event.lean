import SourceMacros.Json.Basic

/-! What is worth noting while a macro expands, with the wording of the notes. -/

namespace SourceMacros

inductive Level where
  | trace
  | debug
  | warn
  deriving DecidableEq

def Level.name : Level → String
  | .trace => "trace"
  | .debug => "debug"
  | .warn => "warn"

inductive Event where
  | expandingPeer (mark target : String)
  | expandedExpression (expanded : String)
  | expandedStruct (name : String) (fields : Nat)
  | expandedClass (name : String)
  /-- The class has a member of the accessor's name, and none is added. -/
  | accessorExists (className accessor : String)
  /-- An entry that is not a pair of string literals gives no field. -/
  | droppedEntry (structName key keyKind value valueKind : String)
  /-- A string literal has no value because of an interpolation. -/
  | foundObstacle (interpolation : String)
  deriving DecidableEq

namespace Event

def level : Event → Level
  | .expandingPeer _ _ => .debug
  | .expandedExpression _ => .debug
  | .expandedStruct _ _ => .debug
  | .expandedClass _ => .debug
  | .accessorExists _ _ => .warn
  | .droppedEntry _ _ _ _ _ => .warn
  | .foundObstacle _ => .trace

def message : Event → String
  | .expandingPeer _ _ => "expanding peer macro"
  | .expandedExpression _ => "expanded"
  | .expandedStruct _ _ => "expanded"
  | .expandedClass _ => "expanded"
  | .accessorExists _ _ => "class already declares the shared accessor; skipping synthesis"
  | .droppedEntry _ _ _ _ _ => "dropping field entry that is not a pair of string literals"
  | .foundObstacle _ => "string literal interpolates a non-identifier expression"

def details : Event → List (String × Json)
  | .expandingPeer mark target => [("attribute", .string mark), ("target", .string target)]
  | .expandedExpression expanded => [("expanded", .string expanded)]
  | .expandedStruct name fields => [("struct_name", .string name), ("fields", .integer fields)]
  | .expandedClass name => [("class", .string name)]
  | .accessorExists className accessor =>
    [("class", .string className), ("accessor", .string accessor)]
  | .droppedEntry structName key keyKind value valueKind =>
    [("struct_name", .string structName), ("key", .string key), ("key_kind", .string keyKind),
      ("value", .string value), ("value_kind", .string valueKind)]
  | .foundObstacle interpolation => [("interpolation", .string interpolation)]

def toJson (e : Event) : Json :=
  .object ([("level", Json.string e.level.name), ("message", .string e.message)] ++ e.details)

end Event
end SourceMacros

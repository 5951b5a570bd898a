import SourceMacros.Json.Decode
import SourceMacros.Text.Identifier
import SourceMacros.Text.Quoted

/-! How macros expand, as far as a host may choose, and how that is loaded from JSON. -/

namespace SourceMacros

open Json (Fault Draft)

inductive FieldTypePolicy where
  /-- The type of a field is taken as it is spelled. -/
  | raw
  /-- The type of a field has to describe a type, and is written in one way. -/
  | descriptor
  deriving DecidableEq

structure SingletonConfig where
  accessorName : String := "shared"
  executor : Option String := some "MainActor"
  skipExisting : Bool := false
  deriving DecidableEq

structure Config where
  fieldTypes : FieldTypePolicy := .raw
  singleton : SingletonConfig := {}
  deriving DecidableEq

namespace FieldTypePolicy

def all : List FieldTypePolicy := [.raw, .descriptor]

def name : FieldTypePolicy → String
  | .raw => "raw"
  | .descriptor => "descriptor"

def names : List String := all.map name

def ofDraft (levels : Nat) (d : Draft) : Except Fault FieldTypePolicy := do
  Draft.required all[← d.readWord names levels]?

end FieldTypePolicy

namespace SingletonConfig

def toJson (c : SingletonConfig) : Json :=
  .object [("accessor_name", .string c.accessorName),
    ("executor_attribute", .ofOption .string c.executor), ("skip_existing", .bool c.skipExisting)]

def fields : List (Draft.Field SingletonConfig) :=
  [⟨"accessor_name", fun _ d c => do return { c with accessorName := ← d.readString }⟩,
    ⟨"executor_attribute", fun _ d c => do
      return { c with executor := ← d.readOptional Draft.readString }⟩,
    ⟨"skip_existing", fun _ d c => do return { c with skipExisting := ← d.readBool }⟩]

end SingletonConfig

/-- Why a configuration cannot be loaded. -/
inductive ConfigError where
  | unreadable
  | json (fault : Fault)
  | invalidIdentifier (field value : String)
  deriving DecidableEq

def ConfigError.identifierMessage (field value : String) : String :=
  s!"invalid config: {field} must be an identifier, found {Text.quoted value}"

namespace Config

def toJson (c : Config) : Json :=
  .object [("field_types", .string c.fieldTypes.name), ("singleton", c.singleton.toJson)]

/-- What is absent keeps its default. -/
def fields : List (Draft.Field Config) :=
  [⟨"field_types", fun levels d c => do
      return { c with fieldTypes := ← FieldTypePolicy.ofDraft levels d }⟩,
    ⟨"singleton", fun levels d c => do
      return { c with singleton := ← d.readRecord SingletonConfig.fields true {} levels }⟩]

def ofDraft (levels : Nat) (d : Draft) : Except Fault Config := d.readRecord fields true {} levels

def requireIdentifier (field value : String) : Except ConfigError Unit :=
  if Text.isIdentifier value then .ok () else .error (.invalidIdentifier field value)

/-- The names that go into generated source have to be identifiers. -/
def validate (c : Config) : Except ConfigError Unit := do
  requireIdentifier "singleton.accessor_name" c.singleton.accessorName
  match c.singleton.executor with
  | some executor => requireIdentifier "singleton.executor_attribute" executor
  | none => return ()

def parse (text : String) : Except ConfigError Config := do
  let c ← (Json.look (ofDraft Json.levels) text).mapError .json
  c.validate
  return c

/-- The configuration in a file, where `contents` is its text if it can be read. -/
def load (contents : Option String) : Except ConfigError Config :=
  match contents with
  | some text => parse text
  | none => .error .unreadable

end Config
end SourceMacros

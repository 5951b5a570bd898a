import SourceMacros.Context
import SourceMacros.ExpansionError

/-! What a host shows of an error. -/

namespace SourceMacros

structure Diagnostic where
  kind : ErrorKind
  message : String
  macroName : Option String
  location : Option Location
  deriving DecidableEq

namespace Diagnostic

def ofError (error : ExpansionError) (location : Option Location) : Diagnostic :=
  ⟨error.kind, error.message, error.macroName?, location⟩

def render (d : Diagnostic) : String :=
  match d.location with
  | some location => s!"{location.render}: error[{d.kind.name}]: {d.message}"
  | none => s!"error[{d.kind.name}]: {d.message}"

/-- A member of an object that is left out where there is no value. -/
def present (name : String) (value : Option Json) : List (String × Json) :=
  value.toList.map (name, ·)

def toJson (d : Diagnostic) : Json :=
  .object ([("kind", d.kind.toJson), ("message", .string d.message)] ++
    present "macro_name" (d.macroName.map .string) ++
    present "location" (d.location.map Location.toJson))

end Diagnostic

def Context.diagnose (context : Context) (error : ExpansionError) : Diagnostic :=
  .ofError error context.location

end SourceMacros

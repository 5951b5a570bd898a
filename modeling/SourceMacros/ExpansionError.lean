import SourceMacros.Role
import SourceMacros.SyntaxError

/-! Why a macro does not expand. -/

namespace SourceMacros

open Json (Fault Draft)

inductive ErrorKind where
  | arity
  | type
  | argument
  | naming
  | invalidType
  | emptyFields
  | unsupportedTarget
  | unknownMacro
  | roleMismatch
  | duplicateMacro
  | unreadable
  deriving DecidableEq

namespace ErrorKind

def all : List ErrorKind :=
  [.arity, .type, .argument, .naming, .invalidType, .emptyFields, .unsupportedTarget, .unknownMacro,
    .roleMismatch, .duplicateMacro, .unreadable]

def name : ErrorKind → String
  | .arity => "arity_error"
  | .type => "type_error"
  | .argument => "argument_error"
  | .naming => "naming_error"
  | .invalidType => "invalid_type_format"
  | .emptyFields => "empty_fields_error"
  | .unsupportedTarget => "unsupported_target_error"
  | .unknownMacro => "unknown_macro"
  | .roleMismatch => "role_mismatch"
  | .duplicateMacro => "duplicate_macro"
  | .unreadable => "syntax_error"

def names : List String := all.map name

def ofName? (text : String) : Option ErrorKind := all.find? (·.name == text)

def toJson (kind : ErrorKind) : Json := .string kind.name

def ofDraft (levels : Nat) (d : Draft) : Except Fault ErrorKind := do
  Draft.required all[← d.readWord names levels]?

end ErrorKind

inductive ExpansionError where
  | arity (macroName : String) (expected found : Nat)
  | type (macroName expected given : String)
  | argument (macroName reason : String)
  | naming (name : String)
  | invalidType (field text : String)
  | emptyFields (macroName structName : String)
  | unsupportedTarget (macroName found : String)
  | unknownMacro (name : String)
  | roleMismatch (name : String) (expected found : Role)
  | duplicateMacro (name : String)
  | unreadable (cause : SyntaxError)
  deriving DecidableEq

namespace ExpansionError

def arityMessage (macroName : String) (expected found : Nat) : String :=
  let noun := if expected = 1 then "argument" else "arguments"
  if found = 0 then
    s!"the `#{macroName}` macro requires exactly {expected} {noun}, but none was provided"
  else if expected < found then
    s!"the `#{macroName}` macro supports only {expected} {noun}, found {found}"
  else s!"the `#{macroName}` macro requires exactly {expected} {noun}, found {found}"

def message : ExpansionError → String
  | .arity macroName expected found => arityMessage macroName expected found
  | .type macroName expected given =>
    s!"the argument provided to `#{macroName}` must be {expected}. Found: {given}"
  | .argument macroName reason => s!"invalid arguments for `#{macroName}`: {reason}"
  | .naming name => s!"struct name `{name}` must start with an uppercase letter"
  | .invalidType field text => s!"invalid type format for field `{field}`: `{text}`"
  | .emptyFields macroName structName =>
    s!"`#{macroName}` produced no fields for struct `{structName}`; each entry must map " ++
      "a string literal name to a string literal type"
  | .unsupportedTarget macroName found =>
    s!"`@{macroName}` can only be applied to classes, found {found}"
  | .unknownMacro name => s!"no macro named `{name}` is registered"
  | .roleMismatch name expected found =>
    s!"macro `{name}` has role `{found.name}`, expected `{expected.name}`"
  | .duplicateMacro name => s!"macro already registered: {name}"
  | .unreadable cause => s!"syntax: {cause.message}"

def kind : ExpansionError → ErrorKind
  | .arity _ _ _ => .arity
  | .type _ _ _ => .type
  | .argument _ _ => .argument
  | .naming _ => .naming
  | .invalidType _ _ => .invalidType
  | .emptyFields _ _ => .emptyFields
  | .unsupportedTarget _ _ => .unsupportedTarget
  | .unknownMacro _ => .unknownMacro
  | .roleMismatch _ _ _ => .roleMismatch
  | .duplicateMacro _ => .duplicateMacro
  | .unreadable (.invalidType _) => .invalidType
  | .unreadable _ => .unreadable

/-- The macro that the error is about, if it is about one. -/
def macroName? : ExpansionError → Option String
  | .arity macroName _ _ => some macroName
  | .type macroName _ _ => some macroName
  | .argument macroName _ => some macroName
  | .emptyFields macroName _ => some macroName
  | .unsupportedTarget macroName _ => some macroName
  | .unknownMacro name => some name
  | .roleMismatch name _ _ => some name
  | .duplicateMacro name => some name
  | .naming _ => none
  | .invalidType _ _ => none
  | .unreadable _ => none

end ExpansionError
end SourceMacros

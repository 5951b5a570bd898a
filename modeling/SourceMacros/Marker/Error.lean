import SourceMacros.Grammar.Error

/-! Why a struct cannot be marked as a macro. -/

namespace SourceMacros

inductive MarkerError where
  /-- The tokens are no arguments, or no item. -/
  | grammar (cause : GrammarError)
  | unknownKey
  | invalidName
  | unknownRole
  | repeatedName
  | repeatedRole
  | missingName
  | missingRole
  | notStruct
  | notUnit
  | generic
  deriving DecidableEq

def MarkerError.message : MarkerError → String
  | .grammar cause => cause.message
  | .unknownKey => "unknown key in attribute; expected 'name' or 'role'"
  | .invalidName => "macro name must be a non-empty identifier"
  | .unknownRole => "unknown role; expected 'expression' | 'declaration' | 'peer'"
  | .repeatedName => "duplicate key 'name' in attribute"
  | .repeatedRole => "duplicate key 'role' in attribute"
  | .missingName =>
    "missing key 'name', e.g., #[external_macro(name = \"doubleValue\", role = expression)]"
  | .missingRole => "missing key 'role'; expected 'expression' | 'declaration' | 'peer'"
  | .notStruct => "#[external_macro] only on struct"
  | .notUnit => "#[external_macro] requires a unit struct, e.g., pub struct DoubleValueMacro;"
  | .generic => "#[external_macro] does not support generic expander types"

end SourceMacros

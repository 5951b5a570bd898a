import SourceMacros.Registry
import SourceMacros.Text.Lines

/-! Checks that source expands as expected, for the tests of macros. -/

namespace SourceMacros

/-- How an expectation is missed. -/
inductive Mismatch where
  | differs
  | failed (report : String)
  deriving DecidableEq

namespace Registry

/-- Layout at the ends of lines and of the text does not count. -/
def expectExpansion (r : Registry) (context : Context) (source expanded : String) :
    Except Mismatch Unit :=
  match (r.expandSource source context).result with
  | .ok actual =>
    if Text.normalize actual.toList = Text.normalize expanded.toList then .ok ()
    else .error .differs
  | .error error =>
    .error (.failed s!"expansion of:\n{source}\nfailed: {error.message}")

/-- The message of the error, which has to be of the expected kind. -/
def expectError (r : Registry) (source : String) (kind : ErrorKind) : Except Mismatch String :=
  match (r.expandSource source {}).result with
  | .ok actual =>
    .error (.failed s!"expected {kind.name} for:\n{source}\nbut expanded to:\n{actual}")
  | .error error => if error.kind = kind then .ok error.message else .error .differs

end Registry
end SourceMacros

import SourceMacros.Diagnostic
import SourceMacros.Json.Printer
import SourceMacros.Registry

/-! What is shown of the expansion of a source: as text, and as JSON. -/

namespace SourceMacros

structure Report where
  source : String
  outcome : Except Diagnostic String

namespace Report

def ofSource (source : String) (context : Context) : Report :=
  ⟨source, (Registry.standard.expandSource source context).result.mapError context.diagnose⟩

def isSuccess (r : Report) : Bool := r.outcome.toBool

def toJson (r : Report) : Json :=
  .object [("source", .string r.source),
    match r.outcome with
    | .ok expanded => ("expanded", .string expanded)
    | .error diagnostic => ("diagnostic", diagnostic.toJson)]

def plain (r : Report) : String :=
  match r.outcome with
  | .ok expanded => s!"{r.source}\n=>\n{expanded}\n"
  | .error diagnostic => s!"{r.source}\n{diagnostic.render}\n"

def render (r : Report) (asJson : Bool) : String :=
  if asJson then r.toJson.pretty ++ "\n" else r.plain

end Report
end SourceMacros

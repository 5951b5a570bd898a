import SourceMacros.Expression.Printer

/-! A call of a macro that stands by itself: its name and its arguments. -/

namespace SourceMacros

structure Invocation where
  name : String
  arguments : List Argument
  deriving DecidableEq

namespace Invocation

def ofExpressions (name : String) (expressions : List Expression) : Invocation :=
  ⟨name, expressions.map .plain⟩

def expressions (invocation : Invocation) : List Expression := invocation.arguments.map (·.value)

def written (invocation : Invocation) : List Char :=
  '#' :: (invocation.name.toList ++
    '(' :: (commaSeparated (argumentsWritten invocation.arguments) ++ [')']))

def render (invocation : Invocation) : String := String.ofList invocation.written

@[simp] theorem toList_render (invocation : Invocation) :
    invocation.render.toList = invocation.written := by
  simp [render]

end Invocation
end SourceMacros

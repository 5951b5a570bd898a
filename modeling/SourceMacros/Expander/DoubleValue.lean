import SourceMacros.Context
import SourceMacros.Expansion
import SourceMacros.Expression.Literal
import SourceMacros.Invocation

/-! The macro that turns an integer literal into a call of `Double`. -/

namespace SourceMacros.Expander

/-- The literal keeps its spelling, and an argument without a value is none. -/
def doubleValue (invocation : Invocation) (_ : Context) : Expansion Expression :=
  match invocation.arguments with
  | [argument] =>
    if argument.value.integerValue?.isSome then do
      let expanded := Expression.callOf "Double" [.plain argument.value]
      Expansion.note (.expandedExpression expanded.render)
      return expanded
    else .fail (.type invocation.name "an integer literal" argument.value.render)
  | arguments => .fail (.arity invocation.name 1 arguments.length)

end SourceMacros.Expander

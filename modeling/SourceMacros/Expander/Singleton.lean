import SourceMacros.Context
import SourceMacros.Declaration
import SourceMacros.Expansion

/-! The macro that gives a class the constant that holds its one instance. -/

namespace SourceMacros.Expander

/-- The class with the accessor after its other members is the only declaration beside it. -/
def singleton (mark : Attribute) (target : Declaration) (context : Context) :
    Expansion (List Declaration) :=
  let config := context.config.singleton
  match target with
  | .body .reference name modifiers attributes members =>
    if config.skipExisting && members.any (·.name == config.accessorName) then do
      Expansion.note (.accessorExists name config.accessorName)
      return [target]
    else do
      Expansion.note (.expandedClass name)
      let accessor := Declaration.accessor name config.accessorName config.executor
      return [.body .reference name modifiers attributes (members ++ [accessor])]
  | other => .fail (.unsupportedTarget mark.name other.kindName)

end SourceMacros.Expander

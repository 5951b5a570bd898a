import SourceMacros.Declaration
import SourceMacros.Expression.Printer

/-! The source text of declarations: a member to a line, four blanks deeper than its body. -/

namespace SourceMacros

/-- Attributes and modifiers, each with the blank after it. -/
def leadWritten (attributes : List Attribute) (modifiers : List Modifier) : List Char :=
  attributes.flatMap (fun a => '@' :: (a.name.toList ++ [' '])) ++
    modifiers.flatMap (fun m => m.keyword.toList ++ [' '])

def indentWritten (depth : Nat) : List Char := List.replicate (4 * depth) ' '

def Binding.written (b : Binding) : List Char :=
  leadWritten b.attributes b.modifiers ++
    (if b.isConstant then "let " else "var ").toList ++ b.name.toList ++
    (match b.typeText with
      | some text => ':' :: ' ' :: text.toList
      | none => []) ++
    (match b.initializer with
      | some e => ' ' :: '=' :: ' ' :: e.written
      | none => [])

mutual

/-- The characters of a declaration whose first line stands at `depth`. -/
def Declaration.writtenAt (depth : Nat) : Declaration → List Char
  | .binding b => b.written
  | .body kind name modifiers attributes members =>
    leadWritten attributes modifiers ++ kind.keyword.toList ++ ' ' :: (name.toList ++
      ' ' :: '{' :: '\n' :: (membersWrittenAt (depth + 1) members ++ indentWritten depth ++ ['}']))

def membersWrittenAt (depth : Nat) : List Declaration → List Char
  | [] => []
  | d :: ds =>
    indentWritten depth ++ d.writtenAt depth ++ '\n' :: membersWrittenAt depth ds

end

namespace Declaration

def written (d : Declaration) : List Char := d.writtenAt 0

def render (d : Declaration) : String := String.ofList d.written

@[simp] theorem toList_render (d : Declaration) : d.render.toList = d.written := by
  simp [render]

def renderAll (declarations : List Declaration) : String :=
  "\n\n".intercalate (declarations.map render)

end Declaration
end SourceMacros

import SourceMacros.Reader.Declaration
import SourceMacros.SyntaxError

/-! Reading of a whole text: it must not nest too deeply, and nothing but a gap may follow what is
read. A failure is reported by its place. -/

namespace SourceMacros

namespace Reader

/-- Where the rest of a source begins, in bytes of UTF-8. -/
def offset (source rest : List Char) : Nat := Text.byteSize source - Text.byteSize rest

/-- What is met at a place, shown by its first two dozen characters. -/
def failure (source place : List Char) : UnreadableCause :=
  match place with
  | [] => .endOfInput (offset source place)
  | _ => .unexpected (offset source place) (String.ofList (place.take 24))

def whole {α : Type} (p : Reader α) : Reader α := do
  let a ← p
  gap
  finish
  return a

def read {α : Type} (p : Reader α) (source : String) : Except SyntaxError α :=
  match Nesting.tooDeepAt Nesting.limit [] source.toList with
  | some place => .error (.unreadable (.tooDeep (offset source.toList place)))
  | none =>
    match whole p source.toList with
    | .done a _ => .ok a
    | .miss place | .halt place => .error (.unreadable (failure source.toList place))

end Reader

def Expression.parse (source : String) : Except SyntaxError Expression :=
  Reader.read Reader.expression source

def Invocation.parse (source : String) : Except SyntaxError Invocation :=
  Reader.read Reader.invocation source

def Declaration.parse (source : String) : Except SyntaxError Declaration :=
  Reader.read Reader.declaration source

end SourceMacros

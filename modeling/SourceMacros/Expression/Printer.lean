import SourceMacros.Expression

/-! The source text of expressions. -/

namespace SourceMacros

def commaSeparated (texts : List (List Char)) : List Char := [',', ' '].intercalate texts

mutual

def Expression.written : Expression → List Char
  | .integer text => text.toList
  | .string segments => '"' :: (segmentsWritten segments ++ ['"'])
  | .dictionary [] => ['[', ':', ']']
  | .dictionary (entry :: entries) =>
    '[' :: (commaSeparated (entriesWritten (entry :: entries)) ++ [']'])
  | .identifier name => name.toList
  | .call callee arguments =>
    callee.written ++ '(' :: (commaSeparated (argumentsWritten arguments) ++ [')'])
  | .other text => text.toList

def segmentsWritten : List Segment → List Char
  | [] => []
  | .text value :: segments => value.toList ++ segmentsWritten segments
  | .interpolation value :: segments =>
    '\\' :: '(' :: (value.written ++ ')' :: segmentsWritten segments)

def entriesWritten : List Entry → List (List Char)
  | [] => []
  | ⟨key, value⟩ :: entries =>
    (key.written ++ ':' :: ' ' :: value.written) :: entriesWritten entries

def argumentsWritten : List Argument → List (List Char)
  | [] => []
  | ⟨none, value⟩ :: arguments => value.written :: argumentsWritten arguments
  | ⟨some label, value⟩ :: arguments =>
    (label.toList ++ ':' :: ' ' :: value.written) :: argumentsWritten arguments

end

def Expression.render (e : Expression) : String := String.ofList e.written

@[simp] theorem Expression.toList_render (e : Expression) : e.render.toList = e.written := by
  simp [Expression.render]

end SourceMacros

import SourceMacros.Text.Blank

/-! Lines of text, and texts that differ in layout alone. -/

namespace SourceMacros.Text

/-- The lines of a text, of which there is at least one. -/
def lines : List Char → List (List Char)
  | [] => [[]]
  | c :: cs =>
    if c = '\n' then [] :: lines cs
    else
      match lines cs with
      | line :: others => (c :: line) :: others
      | [] => [[c]]

/-- The text without the blanks around it and at the ends of its lines. -/
def normalize (text : List Char) : List Char :=
  ['\n'].intercalate ((lines (trim text)).map trimEnd)

end SourceMacros.Text

import SourceMacros.Json.Basic

/-! The text of JSON values, on one line or with a member to a line. -/

namespace SourceMacros.Json

/-- The escaped form of a character inside a string: quotes, backslashes and control characters are
escaped and all else stands for itself. -/
def escaped (c : Char) : List Char :=
  match c with
  | '"' => ['\\', '"']
  | '\\' => ['\\', '\\']
  | '\n' => ['\\', 'n']
  | '\r' => ['\\', 'r']
  | '\t' => ['\\', 't']
  | '\x08' => ['\\', 'b']
  | '\x0c' => ['\\', 'f']
  | c =>
    if c.toNat < 0x20 then
      ['\\', 'u', '0', '0', (c.toNat / 16).digitChar, (c.toNat % 16).digitChar]
    else [c]

def stringWritten (text : String) : List Char :=
  '"' :: (text.toList.flatMap escaped ++ ['"'])

def integerWritten : Int → List Char
  | .ofNat n => Nat.toDigits 10 n
  | .negSucc n => '-' :: Nat.toDigits 10 (n + 1)

mutual

def written : Json → List Char
  | .null => "null".toList
  | .bool true => "true".toList
  | .bool false => "false".toList
  | .integer value => integerWritten value
  | .decimal text => text.toList
  | .string value => stringWritten value
  | .array items => '[' :: ([','].intercalate (itemsWritten items) ++ [']'])
  | .object members => '{' :: ([','].intercalate (membersWritten members) ++ ['}'])

def itemsWritten : List Json → List (List Char)
  | [] => []
  | j :: js => j.written :: itemsWritten js

def membersWritten : List (String × Json) → List (List Char)
  | [] => []
  | (name, j) :: js => (stringWritten name ++ ':' :: j.written) :: membersWritten js

end

def render (j : Json) : String := String.ofList j.written

def lineStart (depth : Nat) : List Char := '\n' :: List.replicate (2 * depth) ' '

/-- Brackets around parts of which each stands on a line of its own. -/
def bracketed (opening closing : Char) (depth : Nat) (parts : List (List Char)) : List Char :=
  if parts.isEmpty then [opening, closing]
  else opening :: ([','].intercalate (parts.map (lineStart (depth + 1) ++ ·)) ++
    lineStart depth ++ [closing])

mutual

/-- The characters of the text that has a member to a line, for a value that stands at `depth`. -/
def indented (depth : Nat) : Json → List Char
  | .array items => bracketed '[' ']' depth (itemsIndented (depth + 1) items)
  | .object members => bracketed '{' '}' depth (membersIndented (depth + 1) members)
  | .null => written .null
  | .bool value => written (.bool value)
  | .integer value => written (.integer value)
  | .decimal text => written (.decimal text)
  | .string value => written (.string value)

def itemsIndented (depth : Nat) : List Json → List (List Char)
  | [] => []
  | j :: js => j.indented depth :: itemsIndented depth js

def membersIndented (depth : Nat) : List (String × Json) → List (List Char)
  | [] => []
  | (name, j) :: js =>
    (stringWritten name ++ ':' :: ' ' :: j.indented depth) :: membersIndented depth js

end

def pretty (j : Json) : String := String.ofList (j.indented 0)

end SourceMacros.Json

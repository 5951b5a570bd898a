/-! How deep brackets and string literals nest in a text, whether or not they match. -/

namespace SourceMacros.Nesting

/-- The number of levels that source and type descriptions may nest. -/
def limit : Nat := 32

/-- What is open: a bracket or an interpolation, or the text of a string literal. -/
inductive Frame where
  | group
  | text
  deriving DecidableEq

def isOpener (c : Char) : Bool := c == '(' || c == '[' || c == '{'

def isCloser (c : Char) : Bool := c == ')' || c == ']' || c == '}'

def afterEscape (frames : List Frame) (c : Char) : List Frame :=
  if c = '(' then .group :: frames else frames

/-- What is open after a character. -/
def after : List Frame → Char → List Frame
  | .text :: frames, c => if c = '"' then frames else .text :: frames
  | frames, c =>
    if c = '"' then .text :: frames
    else if isOpener c then .group :: frames
    else if isCloser c then frames.tail
    else frames

/-- The text from the first place on at which more than `levels` frames are open. -/
def tooDeepAt (levels : Nat) : List Frame → List Char → Option (List Char)
  | _, [] => none
  | .text :: frames, '\\' :: c :: rest =>
    let opened := afterEscape (.text :: frames) c
    if levels < opened.length then some ('\\' :: c :: rest) else tooDeepAt levels opened rest
  | frames, c :: rest =>
    let opened := after frames c
    if levels < opened.length then some (c :: rest) else tooDeepAt levels opened rest

end SourceMacros.Nesting

import SourceMacros.Reader.Basic
import SourceMacros.Reader.Nesting
import SourceMacros.Invocation

/-! Reading of expressions and of macro calls. A shape that is not known is taken verbatim up to the
next delimiter outside brackets and quotes. The readers of the parts of an expression take the reader
of the expressions inside it as an argument. -/

namespace SourceMacros.Reader

def isDelimiter (c : Char) : Bool := c == ',' || c == ':' || c == ';' || c == '\n'

/-- Whether a known shape may end here: blanks apart, a delimiter, a closing bracket or the end of the
line or of the text follows. -/
def endsExpression (s : List Char) : Bool :=
  match s.dropWhile Text.isSpace with
  | [] => true
  | '\r' :: '\n' :: _ => true
  | c :: _ => isDelimiter c || Nesting.isCloser c

def expressionEnd : Reader Unit := fun s => if endsExpression s then .done () s else .miss s

def splitSign : List Char → List Char × List Char
  | '-' :: r => (['-'], r)
  | s => ([], s)

/-- An optional minus, a digit, then whatever an identifier may hold. -/
def integer : Reader Expression := fun s =>
  match splitSign s with
  | (sign, c :: r) =>
    if c.isDigit then
      .done (.integer (String.ofList (sign ++ c :: r.takeWhile Text.continuesIdentifier)))
        (r.dropWhile Text.continuesIdentifier)
    else .miss (c :: r)
  | (_, []) => .miss []

/-- The text of a string literal up to its end, an interpolation or the end of the line; a backslash
keeps the character after it. -/
def literalText : List Char → List Char × List Char
  | [] => ([], [])
  | '\\' :: c :: r =>
    if c = '(' then ([], '\\' :: c :: r)
    else ('\\' :: c :: (literalText r).1, (literalText r).2)
  | c :: r =>
    if c = '"' || c = '\n' then ([], c :: r)
    else (c :: (literalText r).1, (literalText r).2)

def textSegment (text : List Char) : List Segment :=
  if text.isEmpty then [] else [.text (String.ofList text)]

/-- The segments up to the closing quote, of which there must be one on the line. -/
def segmentsWithin (inner : Reader Expression) : Nat → Reader (List Segment)
  | 0 => miss
  | n + 1 => fun s =>
    let lead := textSegment (literalText s).1
    match (literalText s).2 with
    | '"' :: r => .done lead r
    | '\\' :: '(' :: r =>
      (do
        let value ← inner
        symbol ')'
        let more ← segmentsWithin inner n
        return lead ++ .interpolation value :: more : Reader (List Segment)) r
    | r => .halt r

def segments (inner : Reader Expression) : Reader (List Segment) := fun s =>
  segmentsWithin inner (s.length + 1) s

def stringLiteral (inner : Reader Expression) : Reader Expression := do
  char '"'
  return .string (← segments inner)

def emptyDictionary : Reader Expression := do
  char '['
  symbol ':'
  symbol ']'
  return .dictionary []

def entry (inner : Reader Expression) : Reader Entry := do
  let key ← inner
  symbol ':'
  let value ← inner
  return ⟨key, value⟩

def filledDictionary (inner : Reader Expression) : Reader Expression := do
  char '['
  let entries ← separated (symbol ',') (entry inner)
  let _ ← optional (symbol ',')
  symbol ']'
  return .dictionary entries

def dictionary (inner : Reader Expression) : Reader Expression :=
  emptyDictionary <|> filledDictionary inner

def label : Reader String := do
  let name ← name
  spaces
  char ':'
  return name

def argument (inner : Reader Expression) : Reader Argument := do
  let label ← optional label
  let value ← inner
  return ⟨label, value⟩

/-- A comma may stand after the last argument, or alone. -/
def argumentList (inner : Reader Expression) : Reader (List Argument) := do
  char '('
  let arguments ← optional (separated (symbol ',') (argument inner))
  let _ ← optional (symbol ',')
  symbol ')'
  return arguments.getD []

def callOrIdentifier (inner : Reader Expression) : Reader Expression := do
  let name ← identifier
  match ← optional (argumentList inner) with
  | some arguments => return .callOf name arguments
  | none => return .identifier name

inductive Quoting where
  | outside
  | inside
  | escaped
  deriving DecidableEq

/-- Splits a text before the first delimiter or closing bracket outside brackets and quotes. -/
def splitVerbatim : Nat → Quoting → List Char → List Char × List Char
  | _, _, [] => ([], [])
  | depth, .escaped, c :: r =>
    (c :: (splitVerbatim depth .inside r).1, (splitVerbatim depth .inside r).2)
  | depth, .inside, c :: r =>
    let next := if c = '\\' then .escaped else if c = '"' then .outside else .inside
    (c :: (splitVerbatim depth next r).1, (splitVerbatim depth next r).2)
  | depth, .outside, c :: r =>
    if depth = 0 && (isDelimiter c || Nesting.isCloser c) then ([], c :: r)
    else
      let next := if c = '"' then .inside else .outside
      let depth := if Nesting.isOpener c then depth + 1
        else if Nesting.isCloser c then depth - 1 else depth
      (c :: (splitVerbatim depth next r).1, (splitVerbatim depth next r).2)

/-- A text that is not blank, without the blanks around it. -/
def verbatim : Reader Expression := fun s =>
  let text := Text.trim (splitVerbatim 0 .outside s).1
  if text.isEmpty then .miss s
  else .done (.other (String.ofList text)) (splitVerbatim 0 .outside s).2

/-- A known shape with nothing but its end after it. -/
def closed (p : Reader Expression) : Reader Expression := do
  let e ← p
  expressionEnd
  return e

def expressionShape (inner : Reader Expression) : Reader Expression :=
  closed integer <|> closed (stringLiteral inner) <|> closed (dictionary inner) <|>
    closed (callOrIdentifier inner) <|> verbatim

def expressionWithin : Nat → Reader Expression
  | 0 => miss
  | levels + 1 => do
    gap
    expressionShape (expressionWithin levels)

/-- No expression nests deeper than its text is long. -/
def expression : Reader Expression := fun s => expressionWithin (s.length + 1) s

def invocation : Reader Invocation := do
  symbol '#'
  let name ← identifier
  let arguments ← optional (argumentList expression)
  return ⟨name, arguments.getD []⟩

end SourceMacros.Reader

import SourceMacros.Text.Blank
import SourceMacros.Text.Quoted
import SourceMacros.Token.Basic
import SourceMacros.Token.Spelled

/-! From program text to its tokens. Comments are skipped but for those that document what follows. -/

namespace SourceMacros.Token

def isTokenGap (c : Char) : Bool := Text.isBlank c || c == '\u200e' || c == '\u200f'

/-- Splits after the end of a comment, in which others may nest. -/
def splitBlock : Nat → List Char → Option (List Char × List Char)
  | depth, '/' :: '*' :: r =>
    (splitBlock (depth + 1) r).map fun p => ('/' :: '*' :: p.1, p.2)
  | depth, '*' :: '/' :: r =>
    if depth ≤ 1 then some (['*', '/'], r)
    else (splitBlock (depth - 1) r).map fun p => ('*' :: '/' :: p.1, p.2)
  | depth, c :: r => (splitBlock depth r).map fun p => (c :: p.1, p.2)
  | _, [] => none

def afterComment : List Char → Option (List Char)
  | '/' :: '/' :: '!' :: _ => none
  | '/' :: '/' :: '/' :: '/' :: r => some (r.dropWhile (· != '\n'))
  | '/' :: '/' :: '/' :: _ => none
  | '/' :: '/' :: r => some (r.dropWhile (· != '\n'))
  | '/' :: '*' :: '*' :: '/' :: r => some r
  | '/' :: '*' :: '!' :: _ => none
  | '/' :: '*' :: '*' :: '*' :: r => (splitBlock 1 ('*' :: '*' :: r)).map (·.2)
  | '/' :: '*' :: '*' :: _ => none
  | '/' :: '*' :: r => (splitBlock 1 r).map (·.2)
  | _ => none

def skipGaps : Nat → List Char → List Char
  | 0, s => s
  | n + 1, s =>
    let s := s.dropWhile isTokenGap
    match afterComment s with
    | some rest => skipGaps n rest
    | none => s

def splitLine : List Char → Option (List Char × List Char)
  | [] => some ([], [])
  | '\n' :: r => some ([], '\n' :: r)
  | '\r' :: '\n' :: r => some ([], '\n' :: r)
  | '\r' :: _ => none
  | c :: r => (splitLine r).map fun p => (c :: p.1, p.2)

def hasBareReturn : List Char → Bool
  | '\r' :: '\n' :: r => hasBareReturn r
  | '\r' :: _ => true
  | _ :: r => hasBareReturn r
  | [] => false

def blockText (r : List Char) : Option (List Char × List Char) := do
  let (text, rest) ← splitBlock 1 r
  let text := text.take (text.length - 2)
  if hasBareReturn text then none else some (text, rest)

/-- A comment that documents: whether what it stands in, its text, and the rest. -/
def docComment : List Char → Option (Bool × List Char × List Char)
  | '/' :: '/' :: '!' :: r => (splitLine r).map (true, ·)
  | '/' :: '*' :: '!' :: r => (blockText r).map (true, ·)
  | '/' :: '/' :: '/' :: r => (splitLine r).map (false, ·)
  | '/' :: '*' :: '*' :: r => (blockText r).map (false, ·)
  | _ => none

/-- The text of a documenting comment with its characters made visible; a zero is spelled in two digits
where an octal digit follows. -/
def docWritten : List Char → List Char
  | [] => []
  | '\x00' :: c :: r =>
    (if '0' ≤ c && c ≤ '7' then ['\\', 'x', '0', '0'] else ['\\', '0']) ++ docWritten (c :: r)
  | c :: r => Text.quotedChar c ++ docWritten r

/-- The tokens of the attribute that a documenting comment stands for. -/
def docTokens (isInner : Bool) (text : List Char) : List Token :=
  .lone '#' :: ((if isInner then [.lone '!'] else []) ++
    [.group .bracket
      [.word "doc", .lone '=', .literal (String.ofList ('"' :: (docWritten text ++ ['"'])))]])

def isMarkChar (c : Char) : Bool := "~!@#$%^&*-=+|;:,<.>/?'".toList.contains c

def startsMark : List Char → Bool
  | '/' :: '/' :: _ => false
  | '/' :: '*' :: _ => false
  | c :: _ => isMarkChar c
  | [] => false

def neverRaw : List String := ["_", "super", "self", "Self", "crate"]

def wordText (s : List Char) : Option (List Char) :=
  match s with
  | 'r' :: '#' :: r =>
    let name := Spelled.nameText r
    if name.isEmpty || neverRaw.contains (String.ofList name) then none
    else some ('r' :: '#' :: name)
  | s => if Spelled.startsName s then some (Spelled.nameText s) else none

def startsLiteral (s : List Char) : Bool :=
  ["r\"", "r#\"", "r##", "b\"", "b\'", "br\"", "br#", "c\"", "cr\"", "cr#"].any fun lead =>
    lead.toList.isPrefixOf s

def leaf (s : List Char) : Option (Token × List Char) :=
  match Spelled.literal s with
  | some l => some (.literal (String.ofList l.spelling), l.rest)
  | none =>
    if startsMark s then
      match s with
      | '\'' :: r => do
        let name ← wordText r
        let rest := r.drop name.length
        if rest.head? == some '\'' || rest.head? == some '#' && r.take 2 != ['r', '#'] then none
        else some (.mark '\'' true, r)
      | c :: r => some (.mark c (startsMark r), r)
      | [] => none
    else if startsLiteral s then none
    else do
      let word ← wordText s
      return (.word (String.ofList word), s.drop word.length)

def opening? : Char → Option Delimiter
  | '(' => some .parenthesis
  | '[' => some .bracket
  | '{' => some .brace
  | _ => none

def closing? : Char → Option Delimiter
  | ')' => some .parenthesis
  | ']' => some .bracket
  | '}' => some .brace
  | _ => none

/-- The tokens up to the delimiter that closes the group they stand in, or to the end of the text. -/
def lexWithin : Nat → Option Delimiter → List Char → Option (List Token × List Char)
  | 0, _, _ => none
  | n + 1, closer, s =>
    match skipGaps s.length s with
    | [] => if closer.isNone then some ([], []) else none
    | c :: r =>
      match docComment (c :: r) with
      | some (isInner, text, rest) => do
        let (tokens, rest) ← lexWithin n closer rest
        return (docTokens isInner text ++ tokens, rest)
      | none =>
        match opening? c with
        | some delimiter => do
          let (inner, rest) ← lexWithin n (some delimiter) r
          let (tokens, rest) ← lexWithin n closer rest
          return (.group delimiter inner :: tokens, rest)
        | none =>
          match closing? c with
          | some delimiter => if closer = some delimiter then some ([], r) else none
          | none => do
            let (token, rest) ← leaf (c :: r)
            let (tokens, rest) ← lexWithin n closer rest
            return (token :: tokens, rest)

def afterByteOrderMark : List Char → List Char
  | '\ufeff' :: s => s
  | s => s

/-- The tokens of a text, if every group in it is closed and every literal complete. -/
def lex (text : String) : Option (List Token) :=
  (lexWithin (text.length + 1) none (afterByteOrderMark text.toList)).map (·.1)

/-- The text that a string literal stands for. -/
def stringValue? : Token → Option String
  | .literal text => (Spelled.string text.toList).map fun l => String.ofList l.value
  | _ => none

end SourceMacros.Token

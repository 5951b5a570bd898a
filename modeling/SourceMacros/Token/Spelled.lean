import SourceMacros.Text.Word

/-! Literals in program text. A reader of a literal gives what it is made of and the rest of the text, or
nothing where the text begins otherwise. -/

namespace SourceMacros

/-- A spelling, the text it stands for, and the rest. -/
structure Spelled where
  spelling : List Char
  value : List Char
  rest : List Char

namespace Spelled

def hexValue? (c : Char) : Option Nat :=
  if c.isDigit then some (c.toNat - '0'.toNat)
  else if 'a' ≤ c && c ≤ 'f' then some (c.toNat - 'a'.toNat + 10)
  else if 'A' ≤ c && c ≤ 'F' then some (c.toNat - 'A'.toNat + 10)
  else none

/-- The digits of a character's code point, at most six, and the brace after them. -/
def codePoint : Nat → Nat → List Char → Option Spelled
  | count, value, '}' :: r =>
    if 0 < count && value.isValidChar then some ⟨['}'], [Char.ofNat value], r⟩ else none
  | count, value, c :: r => do
    if c = '_' && 0 < count then
      let more ← codePoint count value r
      return { more with spelling := c :: more.spelling }
    else
      let digit ← hexValue? c
      if count = 6 then none
      else
        let more ← codePoint (count + 1) (16 * value + digit) r
        return { more with spelling := c :: more.spelling }
  | _, _, [] => none

/-- What a string may hold: text, bytes, or text that a zero byte ends. -/
inductive Repertoire where
  | text
  | bytes
  | zeroEnded
  deriving DecidableEq

namespace Repertoire

def holds : Repertoire → Char → Bool
  | text, _ => true
  | bytes, c => c.toNat < 0x80
  | zeroEnded, c => c != '\x00'

def holdsByte : Repertoire → Nat → Bool
  | text, n => n < 0x80
  | bytes, _ => true
  | zeroEnded, n => n != 0

end Repertoire

def simpleEscape? : Char → Option Char
  | 'n' => some '\n'
  | 'r' => some '\r'
  | 't' => some '\t'
  | '0' => some '\x00'
  | '\\' => some '\\'
  | '\'' => some '\''
  | '"' => some '"'
  | _ => none

def escape (repertoire : Repertoire) : List Char → Option Spelled
  | 'x' :: a :: b :: r => do
    let value := 16 * (← hexValue? a) + (← hexValue? b)
    if repertoire.holdsByte value then some ⟨['x', a, b], [Char.ofNat value], r⟩ else none
  | 'u' :: '{' :: r => do
    let more ← codePoint 0 0 r
    if repertoire = .bytes || !more.value.all repertoire.holds then none
    else return { more with spelling := 'u' :: '{' :: more.spelling }
  | c :: r => do
    let d ← simpleEscape? c
    if repertoire.holds d then some ⟨[c], [d], r⟩ else none
  | [] => none

def isLineGap (c : Char) : Bool := c == ' ' || c == '\t' || c == '\n' || c == '\r'

/-- The blanks after a hidden line end, in which a line feed follows each carriage return, and what
follows them. -/
def splitLineGap : List Char → Option (List Char × List Char)
  | [] => none
  | '\r' :: '\n' :: r => (splitLineGap r).map fun p => ('\r' :: '\n' :: p.1, p.2)
  | '\r' :: _ => none
  | c :: r =>
    if isLineGap c then (splitLineGap r).map fun p => (c :: p.1, p.2) else some ([], c :: r)

/-- A backslash before a line end hides it, with the blanks after it. -/
def hiddenLineEnd (s : List Char) : Option Spelled :=
  (splitLineGap s).map fun p => ⟨'\\' :: p.1, [], p.2⟩

def stringUnit (repertoire : Repertoire) : List Char → Option Spelled
  | '\\' :: '\n' :: r => hiddenLineEnd ('\n' :: r)
  | '\\' :: '\r' :: r => hiddenLineEnd ('\r' :: r)
  | '\\' :: r => do
    let more ← escape repertoire r
    return { more with spelling := '\\' :: more.spelling }
  | '\r' :: '\n' :: r => some ⟨['\r', '\n'], ['\n'], r⟩
  | '\r' :: _ => none
  | c :: r => if repertoire.holds c then some ⟨[c], [c], r⟩ else none
  | [] => none

def quotedBody (repertoire : Repertoire) : Nat → List Char → Option Spelled
  | 0, _ => none
  | n + 1, s =>
    match s with
    | '"' :: r => some ⟨['"'], [], r⟩
    | s => do
      let unit ← stringUnit repertoire s
      let more ← quotedBody repertoire n unit.rest
      return ⟨unit.spelling ++ more.spelling, unit.value ++ more.value, more.rest⟩

/-- The rest of a string without escapes, which ends at a quote and as many hashes as it began with. -/
def rawBody (repertoire : Repertoire) (hashes : Nat) : List Char → Option Spelled
  | [] => none
  | c :: r =>
    let close := List.replicate hashes '#'
    if c = '"' && r.take hashes == close then some ⟨c :: close, [], r.drop hashes⟩
    else if c = '\r' && r.head? != some '\n' || !repertoire.holds c then none
    else
      (rawBody repertoire hashes r).map fun more =>
        ⟨c :: more.spelling, c :: more.value, more.rest⟩

def rawString (repertoire : Repertoire) (s : List Char) : Option Spelled :=
  let hashes := s.takeWhile (· == '#')
  match s.dropWhile (· == '#') with
  | '"' :: r =>
    if hashes.length < 256 then
      (rawBody repertoire hashes.length r).map fun more =>
        { more with spelling := hashes ++ '"' :: more.spelling }
    else none
  | _ => none

def startsName (s : List Char) : Bool :=
  match s with
  | c :: _ => Text.startsWord c
  | [] => false

def nameText (s : List Char) : List Char :=
  if startsName s then s.takeWhile Text.continuesWord else []

def withSuffix (l : Spelled) : Spelled :=
  let name := nameText l.rest
  { l with spelling := l.spelling ++ name, rest := l.rest.drop name.length }

def after (l : Spelled) (lead : List Char) : Spelled :=
  { l with spelling := lead ++ l.spelling }

def stringOf (repertoire : Repertoire) : List Char → Option Spelled
  | '"' :: r => (quotedBody repertoire (r.length + 1) r).map fun l => (l.after ['"']).withSuffix
  | 'r' :: r => (rawString repertoire r).map fun l => (l.after ['r']).withSuffix
  | _ => none

def string (s : List Char) : Option Spelled := stringOf .text s

def byteString : List Char → Option Spelled
  | 'b' :: s => (stringOf .bytes s).map (·.after ['b'])
  | 'c' :: s => (stringOf .zeroEnded s).map (·.after ['c'])
  | _ => none

def closeQuote (l : Spelled) : Option Spelled :=
  match l.rest with
  | '\'' :: r => some (withSuffix { l with spelling := l.spelling ++ ['\''], rest := r })
  | _ => none

def unitOf (repertoire : Repertoire) : List Char → Option Spelled
  | '\\' :: r => (escape repertoire r).map (·.after ['\\'])
  | c :: r => if repertoire.holds c then some ⟨[c], [c], r⟩ else none
  | [] => none

def character : List Char → Option Spelled
  | 'b' :: '\'' :: r => do closeQuote ((← unitOf .bytes r).after ['b', '\''])
  | '\'' :: r => do closeQuote ((← unitOf .text r).after ['\''])
  | _ => none

def isDecimal (c : Char) : Bool := c.isDigit || c == '_'

def splitRadix : List Char → List Char × Nat × List Char
  | '0' :: 'x' :: r => (['0', 'x'], 16, r)
  | '0' :: 'o' :: r => (['0', 'o'], 8, r)
  | '0' :: 'b' :: r => (['0', 'b'], 2, r)
  | r => ([], 10, r)

def isDigitOf (radix : Nat) (c : Char) : Bool :=
  match hexValue? c with
  | some value => value < radix
  | none => c == '_'

/-- A whole number in its base. -/
def whole (s : List Char) : Option Spelled :=
  let (lead, radix, r) := splitRadix s
  let digits := r.takeWhile (isDigitOf radix)
  let rest := r.drop digits.length
  if digits.all (· == '_') || radix == 10 && digits.head? == some '_' then none
  else if rest.head?.any Char.isDigit then none
  else some ⟨lead ++ digits, [], rest⟩

/-- The digits of an exponent, of which there has to be one, with a sign before them and underscores
anywhere. -/
def exponentTail (isSigned hasDigit : Bool) : List Char → Option (List Char)
  | [] => if hasDigit then some [] else none
  | c :: r =>
    if c = '_' then (exponentTail isSigned hasDigit r).map (c :: ·)
    else if c.isDigit then (exponentTail isSigned true r).map (c :: ·)
    else if hasDigit then some []
    else if (c = '+' || c = '-') && !isSigned then (exponentTail true false r).map (c :: ·)
    else none

def exponent : List Char → Option (List Char)
  | c :: r =>
    if c = 'e' || c = 'E' then (exponentTail false false r).map (c :: ·) else none
  | [] => none

/-- The fraction after a point that does not begin a range or a field. -/
def fraction : List Char → Option (List Char)
  | '.' :: r =>
    if r.head? == some '.' || startsName r then none else some ('.' :: r.takeWhile isDecimal)
  | _ => none

def real (s : List Char) : Option Spelled :=
  if s.head?.any Char.isDigit then
    let digits := s.takeWhile isDecimal
    let rest := s.drop digits.length
    match fraction rest with
    | some part =>
      let exponent := (exponent (rest.drop part.length)).getD []
      some ⟨digits ++ part ++ exponent, [], rest.drop (part.length + exponent.length)⟩
    | none => (exponent rest).map fun part => ⟨digits ++ part, [], rest.drop part.length⟩
  else none

/-- Nothing that could continue a word follows. -/
def ended (l : Spelled) : Option Spelled :=
  if l.rest.head?.any Text.continuesWord then none else some l

def number (s : List Char) : Option Spelled :=
  ((real s).bind (·.withSuffix.ended)).or ((whole s).bind (·.withSuffix.ended))

def literal (s : List Char) : Option Spelled :=
  (string s).or <| (byteString s).or <| (character s).or <| number s

end Spelled
end SourceMacros

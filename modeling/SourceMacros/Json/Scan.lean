import SourceMacros.Json.Numeral
import SourceMacros.Text.Blank

/-! From JSON text to its draft. Each scanner tells what it sees at the front of the text and, unless
the text stops being JSON there, the rest. -/

namespace SourceMacros.Json

def isJsonBlank (c : Char) : Bool := c == ' ' || c == '\t' || c == '\n' || c == '\r'

def afterBlanks (s : List Char) : List Char := s.dropWhile isJsonBlank

def hexDigit? (c : Char) : Option Nat :=
  if c.isDigit then some (c.toNat - '0'.toNat)
  else if 'a' ≤ c && c ≤ 'f' then some (c.toNat - 'a'.toNat + 10)
  else if 'A' ≤ c && c ≤ 'F' then some (c.toNat - 'A'.toNat + 10)
  else none

/-- Four hexadecimal digits; with fewer than four bytes left the text has ended. -/
def hexUnit (s : List Char) : Except Fault (Nat × List Char) :=
  if Text.byteSize (s.take 4) < 4 then .error .ended
  else
    match (s.take 4).mapM hexDigit? with
    | some digits => .ok (digits.foldl (fun n d => 16 * n + d) 0, s.drop 4)
    | none => .error .malformed

def isLeadUnit (n : Nat) : Bool := 0xD800 ≤ n && n ≤ 0xDBFF

def isTrailUnit (n : Nat) : Bool := 0xDC00 ≤ n && n ≤ 0xDFFF

def joinUnits (lead trail : Nat) : Char :=
  Char.ofNat (0x10000 + (lead - 0xD800) * 0x400 + (trail - 0xDC00))

/-- The second half of a character that is escaped as two units. -/
def trailUnit? : List Char → Option (Nat × List Char)
  | '\\' :: 'u' :: s =>
    match hexUnit s with
    | .ok (n, rest) => if isTrailUnit n then some (n, rest) else none
    | .error _ => none
  | _ => none

/-- Whether a text ends before it is clear that no second half follows. -/
def cutsTrailUnit : List Char → Bool
  | [] => true
  | ['\\'] => true
  | '\\' :: 'u' :: s => Text.byteSize (s.take 4) < 4
  | _ => false

/-- One character of a string: `none` for half of one. -/
def unicodeEscape (s : List Char) : Except Fault (Option (List Char) × List Char) := do
  let (n, rest) ← hexUnit s
  if isLeadUnit n then
    match trailUnit? rest with
    | some (trail, rest) => return (some [joinUnits n trail], rest)
    | none => return (if cutsTrailUnit rest then some [] else none, rest)
  else if isTrailUnit n then return (none, rest)
  else return (some [Char.ofNat n], rest)

def plainEscape? : Char → Option Char
  | '"' => some '"'
  | '\\' => some '\\'
  | '/' => some '/'
  | 'b' => some '\x08'
  | 'f' => some '\x0c'
  | 'n' => some '\n'
  | 'r' => some '\r'
  | 't' => some '\t'
  | _ => none

def stringUnit : List Char → Except Fault (Option (List Char) × List Char)
  | [] => .error .ended
  | ['\\'] => .error .ended
  | '\\' :: 'u' :: s => unicodeEscape s
  | '\\' :: c :: s =>
    match plainEscape? c with
    | some d => .ok (some [d], s)
    | none => .error .malformed
  | c :: s => if c.toNat < 0x20 then .error .malformed else .ok (some [c], s)

/-- What stands between the quotes of a string, `none` if it holds half a character, and what follows
the closing quote. -/
structure StringScan where
  text : Option (List Char)
  close : Except Fault (List Char)

def scanString : Nat → List Char → StringScan
  | 0, _ => ⟨some [], .error .ended⟩
  | n + 1, s =>
    match s with
    | '"' :: rest => ⟨some [], .ok rest⟩
    | s =>
      match stringUnit s with
      | .error fault => ⟨some [], .error fault⟩
      | .ok (unit, rest) =>
        let more := scanString n rest
        ⟨(do return (← unit) ++ (← more.text)), more.close⟩

def StringScan.breach (scan : StringScan) (fault : Fault) : Breach :=
  let read := if scan.text.isSome then fault else .malformed
  ⟨read, fault, read⟩

def stringAt (s : List Char) : StringScan := scanString (s.length + 1) s

abbrev Scanned := Draft × Option (List Char)

def scanWord (word : List Char) (value : Draft) (s : List Char) : Scanned :=
  if s.take word.length = word then (value, some (s.drop word.length))
  else if word.take s.length = s then (.breach ⟨.ended, .ended, .malformed⟩, none)
  else (.breach (.of .malformed), none)

def scanStringValue (s : List Char) : Scanned :=
  let scan := stringAt s
  match scan.close with
  | .ok rest =>
    match scan.text with
    | some text => (.string (String.ofList text), some rest)
    | none => (.loose, some rest)
  | .error fault => (.breach (scan.breach fault), none)

def scanNumber (s : List Char) : Scanned :=
  match numeral s with
  | .ok (n, rest) => (n.draft, some rest)
  | .error breach => (.breach breach, none)

def scanScalar (s : List Char) : Scanned :=
  match s with
  | [] => (.breach (.of .ended), none)
  | '"' :: rest => scanStringValue rest
  | 'n' :: _ => scanWord "null".toList .null s
  | 't' :: _ => scanWord "true".toList (.bool true) s
  | 'f' :: _ => scanWord "false".toList (.bool false) s
  | c :: _ => if c = '-' || c.isDigit then scanNumber s else (.breach (.of .malformed), none)

/-- What is wrong with a name of which the text begins otherwise. -/
def misfitName (s : List Char) : Fault :=
  match s with
  | '[' :: _ => .shape
  | '{' :: _ => .shape
  | s => (scanScalar s).1.misfit

/-- Whether another part follows in an array or object, and if so, whether a comma is before it. -/
inductive Next where
  | part (rest : List Char)
  | stop (how : Stop) (rest : Option (List Char))

def nextPart (closing : Char) (isFirst : Bool) (s : List Char) : Next :=
  let ended comma := Next.stop (.broken comma (.of .ended) .ended) none
  let malformed comma := Next.stop (.broken comma (.of .malformed) .malformed) none
  match afterBlanks s with
  | [] => ended false
  | c :: rest =>
    if c = closing then .stop .closed (some rest)
    else if isFirst then .part (c :: rest)
    else if c = ',' then
      match afterBlanks rest with
      | [] => ended true
      | d :: rest => if d = closing then malformed true else .part (d :: rest)
    else malformed false

def interrupted : Stop := .broken false (.of .ended) .ended

mutual

def scanValue : Nat → List Char → Scanned
  | 0, _ => (.breach (.of .ended), none)
  | n + 1, s =>
    match afterBlanks s with
    | '[' :: s =>
      let (items, stop, rest) := scanItems n true s
      (.array items stop, rest)
    | '{' :: s =>
      let (members, stop, rest) := scanMembers n true s
      (.object members stop, rest)
    | s => scanScalar s

def scanItems : Nat → Bool → List Char → List Draft × Stop × Option (List Char)
  | 0, _, _ => ([], interrupted, none)
  | n + 1, isFirst, s =>
    match nextPart ']' isFirst s with
    | .stop stop rest => ([], stop, rest)
    | .part s =>
      match scanValue n s with
      | (item, none) => ([item], interrupted, none)
      | (item, some rest) =>
        let (items, stop, rest) := scanItems n false rest
        (item :: items, stop, rest)

def scanMembers :
    Nat → Bool → List Char → List (Option String × Draft) × Stop × Option (List Char)
  | 0, _, _ => ([], interrupted, none)
  | n + 1, isFirst, s =>
    match nextPart '}' isFirst s with
    | .stop stop rest => ([], stop, rest)
    | .part ('"' :: s) =>
      let scan := stringAt s
      match scan.close with
      | .error fault =>
        ([], .broken (!isFirst) (scan.breach fault) (scan.breach fault).read, none)
      | .ok rest =>
        let name := scan.text.map String.ofList
        match afterBlanks rest with
        | ':' :: s =>
          match scanValue n s with
          | (value, none) => ([(name, value)], interrupted, none)
          | (value, some rest) =>
            let (members, stop, rest) := scanMembers n false rest
            ((name, value) :: members, stop, rest)
        | [] => ([(name, .breach (.of .ended))], interrupted, none)
        | _ => ([(name, .breach (.of .malformed))], interrupted, none)
    | .part s => ([], .broken (!isFirst) (.of .malformed) (misfitName s), none)

end

def trailingFault (rest : Option (List Char)) : Except Fault Unit :=
  match rest with
  | some rest => if (afterBlanks rest).isEmpty then .ok () else .error .malformed
  | none => .error .ended

/-- Looks for a value in a text by walking its draft; what follows the value is looked at last. -/
def look {α : Type} (decode : Draft → Except Fault α) (text : String) : Except Fault α := do
  let (draft, rest) := scanValue (2 * text.length + 2) text.toList
  let a ← decode draft
  trailingFault rest
  return a

/-- The number of levels that a value may nest. -/
def levels : Nat := 127

/-- The value a text spells. -/
def parse (text : String) : Except Fault Json := look (·.value levels) text

end SourceMacros.Json

import SourceMacros.Json.Draft

/-! Numbers in JSON text. -/

namespace SourceMacros.Json

/-- A number of this size or more is nearer to no finite double of 64 bits than to infinity. -/
def doubleBound : Nat := Nat.pow 2 1024 - Nat.pow 2 970

structure Numeral where
  negative : Bool
  whole : List Char
  fraction : Option (List Char)
  exponent : Option (Bool × List Char)

namespace Numeral

def digitsValue (digits : List Char) : Nat :=
  digits.foldl (fun n d => 10 * n + (d.toNat - '0'.toNat)) 0

/-- Whether the number is too great for a double; the digits are counted first so that no great power
is computed in vain. -/
def isHuge (n : Numeral) : Bool :=
  let fraction := n.fraction.getD []
  let significand := digitsValue (n.whole ++ fraction)
  let size := (Nat.toDigits 10 significand).length
  let exponent : Int :=
    match n.exponent with
    | some (true, digits) => -Int.ofNat (digitsValue digits)
    | some (false, digits) => digitsValue digits
    | none => 0
  let scale := exponent - fraction.length
  if significand = 0 || size + scale < 300 then false
  else if 320 < size + scale then true
  else if 0 ≤ scale then doubleBound ≤ significand * Nat.pow 10 scale.toNat
  else doubleBound * Nat.pow 10 (-scale).toNat ≤ significand

def spelling (n : Numeral) : List Char :=
  (if n.negative then ['-'] else []) ++ n.whole ++
    (match n.fraction with
      | some digits => '.' :: digits
      | none => []) ++
    (match n.exponent with
      | some (true, digits) => 'e' :: '-' :: digits
      | some (false, digits) => 'e' :: digits
      | none => [])

def draft (n : Numeral) : Draft :=
  if n.isHuge then .loose
  else
    match n.fraction, n.exponent with
    | none, none =>
      if n.negative then
        if digitsValue n.whole = 0 then .decimal (String.ofList n.spelling)
        else .integer (-Int.ofNat (digitsValue n.whole))
      else .integer (digitsValue n.whole)
    | _, _ => .decimal (String.ofList n.spelling)

end Numeral

def noDigit (rest : List Char) : Breach :=
  if rest.isEmpty then ⟨.ended, .malformed, .malformed⟩ else .of .malformed

def digits (s : List Char) : Except Breach (List Char × List Char) :=
  if (s.takeWhile Char.isDigit).isEmpty then .error (noDigit s)
  else .ok (s.takeWhile Char.isDigit, s.dropWhile Char.isDigit)

/-- No digit follows a zero at the front. -/
def wholeDigits (s : List Char) : Except Breach (List Char × List Char) := do
  let (whole, rest) ← digits s
  if whole.head? = some '0' && 1 < whole.length then .error (.of .malformed)
  else .ok (whole, rest)

def fractionDigits : List Char → Except Breach (Option (List Char) × List Char)
  | '.' :: s => do
    let (fraction, rest) ← digits s
    return (some fraction, rest)
  | s => .ok (none, s)

def exponentSign : List Char → Bool × List Char
  | '-' :: s => (true, s)
  | '+' :: s => (false, s)
  | s => (false, s)

def exponentDigits : List Char → Except Breach (Option (Bool × List Char) × List Char)
  | c :: s =>
    if c = 'e' || c = 'E' then do
      let (exponent, rest) ← digits (exponentSign s).2
      return (some ((exponentSign s).1, exponent), rest)
    else .ok (none, c :: s)
  | [] => .ok (none, [])

def numeral (s : List Char) : Except Breach (Numeral × List Char) := do
  let negative := s.head? = some '-'
  let (whole, s) ← wholeDigits (if negative then s.tail else s)
  let (fraction, s) ← fractionDigits s
  let (exponent, s) ← exponentDigits s
  return (⟨negative, whole, fraction, exponent⟩, s)

end SourceMacros.Json

import SourceMacros.Expression

/-! The values of integer and string literals. -/

namespace SourceMacros

namespace Literal

/-- The base of a spelled number, told by its first two characters, and what follows them. -/
def splitRadix : List Char → Nat × List Char
  | '0' :: 'x' :: digits => (16, digits)
  | '0' :: 'o' :: digits => (8, digits)
  | '0' :: 'b' :: digits => (2, digits)
  | digits => (10, digits)

def digitValue? (radix : Nat) (c : Char) : Option Nat :=
  let value :=
    if c.isDigit then c.toNat - '0'.toNat
    else if c.isLower then c.toNat - 'a'.toNat + 10
    else if c.isUpper then c.toNat - 'A'.toNat + 10
    else radix
  if value < radix then some value else none

/-- The number that digits denote; underscores between them do not count. -/
def magnitude? (radix : Nat) (digits : List Char) : Option Nat :=
  if digits.isEmpty || digits.head? == some '_' then none
  else
    ((digits.filter (· != '_')).mapM (digitValue? radix)).map
      (·.foldl (fun n d => n * radix + d) 0)

/-- The range of a signed number of 64 bits. -/
def inRange (value : Int) : Bool := -Int.pow 2 63 ≤ value && value ≤ Int.pow 2 63 - 1

def signedValue? : List Char → Option Int
  | '-' :: r => (magnitude? (splitRadix r).1 (splitRadix r).2).map (-Int.ofNat ·)
  | r => (magnitude? (splitRadix r).1 (splitRadix r).2).map Int.ofNat

def integerValue? (text : String) : Option Int := (signedValue? text.toList).filter inRange

end Literal

/-- The text a segment stands for; an interpolated name stands for itself. -/
def Segment.text? : Segment → Option String
  | .text value => some value
  | .interpolation (.identifier name) => some name
  | .interpolation _ => none

def Segment.obstacle? : Segment → Option Expression
  | .text _ => none
  | .interpolation (.identifier _) => none
  | .interpolation e => some e

namespace Expression

def integerValue? : Expression → Option Int
  | .integer text => Literal.integerValue? text
  | _ => none

def stringValue? : Expression → Option String
  | .string segments => (segments.mapM Segment.text?).map String.join
  | _ => none

/-- The first part of a string literal that keeps it from having a value. -/
def obstacle? : Expression → Option Expression
  | .string segments => segments.findSome? Segment.obstacle?
  | _ => none

end Expression
end SourceMacros

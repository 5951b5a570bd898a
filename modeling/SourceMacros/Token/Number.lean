import SourceMacros.Token.Spelled

/-! Spelled numbers: whole ones and their values, and those with a fraction or an exponent. -/

namespace SourceMacros.Token

def isNumberText (text : String) : Bool := text.toList.head?.any Char.isDigit

/-- Whether what follows the letter of an exponent is none, and the letter begins a suffix. -/
def isSuffixTail (r : List Char) : Bool :=
  !(r.takeWhile Spelled.isDecimal).any Char.isDigit &&
    !(r.dropWhile Spelled.isDecimal).head?.any fun c => c == '+' || c == '-'

def isWholeText (text : String) : Bool :=
  isNumberText text &&
    match Spelled.splitRadix text.toList with
    | (_, 10, r) =>
      match r.dropWhile Spelled.isDecimal with
      | '.' :: _ => false
      | 'e' :: tail => isSuffixTail tail
      | 'E' :: tail => isSuffixTail tail
      | _ => true
    | _ => true

def isRealText (text : String) : Bool := isNumberText text && !isWholeText text

def splitSuffix (text : String) : Nat × List Char × List Char :=
  let (_, radix, r) := Spelled.splitRadix text.toList
  (radix, r.span (Spelled.isDigitOf radix))

def wholeValue (text : String) : Nat :=
  let (radix, digits, _) := splitSuffix text
  digits.foldl (fun n c => ((Spelled.hexValue? c).map (n * radix + ·)).getD n) 0

def hasSuffix (text : String) : Bool := !(splitSuffix text).2.2.isEmpty

end SourceMacros.Token

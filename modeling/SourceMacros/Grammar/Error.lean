import SourceMacros.Token.Kind

/-! Why tokens are no item. -/

namespace SourceMacros

/-- What the grammar rules out although each token may stand where it does. -/
inductive Restriction where
  | genericWhere
  | captureHere
  | conditionalConst
  | unconditionalConst
  | questionedBinder
  | objectWithoutTrait
  | boundsWithoutTrait
  | negativeInherent
  | secondReceiver
  | lateReceiver
  | attributeInAttribute
  | openRangeInSlice
  | chainedComparison
  | markedRange
  /-- What follows a cast directly. -/
  | afterCast (what : String)
  | bareLabeledBreak
  | suffixedIndex
  | indexDigits
  | indexSize
  | missingSemicolon
  deriving DecidableEq

def Restriction.message : Restriction → String
  | .genericWhere => "generic parameters on `where` clauses are reserved for future use"
  | .captureHere => "`use<...>` precise capturing syntax is not allowed here"
  | .conditionalConst => "`[const]` is not allowed here"
  | .unconditionalConst => "`const` is not allowed here"
  | .questionedBinder => "`for<...>` binder not allowed with `?` trait polarity modifier"
  | .objectWithoutTrait => "at least one trait is required for an object type"
  | .boundsWithoutTrait => "at least one trait must be specified"
  | .negativeInherent => "inherent impls cannot be negative"
  | .secondReceiver => "unexpected second method receiver"
  | .lateReceiver => "unexpected method receiver"
  | .attributeInAttribute => "unexpected attribute inside of attribute"
  | .openRangeInSlice => "range pattern is not allowed unparenthesized inside slice pattern"
  | .chainedComparison => "comparison operators cannot be chained"
  | .markedRange => "attributes are not allowed on range expressions starting with `..`"
  | .afterCast what => s!"casts cannot be followed by {what}"
  | .bareLabeledBreak => "parentheses required"
  | .suffixedIndex => "expected unsuffixed integer"
  | .indexDigits => "invalid digit found in string"
  | .indexSize => "number too large to fit in target type"
  | .missingSemicolon => "unexpected token, expected `;`"

inductive GrammarError where
  | expected (what : String)
  | missing (what : String)
  | keyword (word : String)
  | ended
  | unexpected
  /-- A group of the given delimiter holds more than it may. -/
  | stray (delimiter : Delimiter)
  | refused (restriction : Restriction)
  deriving DecidableEq

namespace GrammarError

def closing : Delimiter → String
  | .parenthesis => ")"
  | .bracket => "]"
  | .brace => "\x7d"

def message : GrammarError → String
  | .expected what => s!"expected {what}"
  | .missing what => s!"unexpected end of input, expected {what}"
  | .keyword word => s!"expected identifier, found keyword `{word}`"
  | .ended => "unexpected end of input"
  | .unexpected => "unexpected token"
  | .stray delimiter => "unexpected token, expected `" ++ closing delimiter ++ "`"
  | .refused restriction => restriction.message

def shortfall (what : String) (rest : List Token) : GrammarError :=
  if rest.isEmpty then .missing what else .expected what

end GrammarError

/-- Why something does not stand at the front. Of punctuation it is not told that the tokens have ended. -/
def Kind.absence (k : Kind) (rest : List Token) : GrammarError :=
  match k, rest with
  | .sign _, _ => .expected k.title
  | .name, .word w :: _ => .keyword w
  | k, rest => .shortfall k.title rest

end SourceMacros

import SourceMacros.Grammar.Basic
import SourceMacros.Grammar.Operator

/-! What is told of the parts of an item once they are read, and their readers together. -/

namespace SourceMacros.Grammar

/-- What a path is made of, as far as what follows it depends on that. -/
structure PathShape where
  isName : Bool
  isBare : Bool
  isQualified : Bool
  /-- How many tokens the arguments of the last name are written in, if they are empty. -/
  emptyEnd : Option Nat

inductive BoundShape where
  | lifetime
  | capture
  | trait
  deriving DecidableEq

/-- What a type is, as far as what stands around it depends on that. -/
inductive TypeShape where
  | name
  | path
  | traits (single : Bool)
  | parenthesized
  | other
  deriving DecidableEq

inductive ExpressionShape where
  | range
  | comparison
  | block
  | call (delimiter : Delimiter)
  | other
  deriving DecidableEq

inductive PatternShape where
  | rest
  | openRange
  | other
  deriving DecidableEq

inductive FieldShape where
  | unit
  | fields
  deriving DecidableEq

inductive ItemShape where
  | struct (name : String) (isGeneric : Bool) (shape : FieldShape)
  | verbatim
  | other
  deriving DecidableEq

/-- The readers of what items are made of, for the readers that they are made with. -/
structure Parts where
  /-- A type, with or without a sum of bounds. -/
  type : Bool → Grammar TypeShape
  /-- A bound, where a capture and where a mark of constancy may stand or not. -/
  bound : Bool → Bool → Grammar BoundShape
  /-- An expression, in a place where a struct may be spelled or not. -/
  expression : Bool → Grammar ExpressionShape
  operand : Bool → Grammar ExpressionShape
  operation : ExpressionShape → Bool → Precedence → Grammar ExpressionShape
  standing : Grammar ExpressionShape
  pattern : Grammar PatternShape
  statements : Grammar Unit
  item : Grammar ItemShape
  namedField : Grammar Unit
  /-- What is used, in a place where a path from the root may stand or not; tells whether one does. -/
  useTree : Bool → Grammar Bool

end SourceMacros.Grammar

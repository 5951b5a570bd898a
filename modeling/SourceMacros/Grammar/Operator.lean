import SourceMacros.Token.Kind

/-! Operators between two operands, and how tightly they hold these. -/

namespace SourceMacros

/-- From the loosest to the tightest. -/
inductive Precedence where
  | lowest
  | assignment
  | range
  | disjunction
  | conjunction
  | condition
  | comparison
  | bitOr
  | bitXor
  | bitAnd
  | shift
  | sum
  | product
  | cast
  deriving DecidableEq

namespace Precedence

instance : LE Precedence := ⟨fun a b => a.ctorIdx ≤ b.ctorIdx⟩

instance : LT Precedence := ⟨fun a b => a.ctorIdx < b.ctorIdx⟩

instance (a b : Precedence) : Decidable (a ≤ b) := Nat.decLe _ _

instance (a b : Precedence) : Decidable (a < b) := Nat.decLt _ _

end Precedence

/-- The operators with two operands, each after those that it is the beginning of. -/
def binaryOperators : List (String × Precedence) :=
  ["+=", "-=", "*=", "/=", "%=", "^=", "&=", "|=", "<<=", ">>="].map (·, Precedence.assignment) ++
    [("&&", Precedence.conjunction), ("||", .disjunction), ("<<", .shift), (">>", .shift),
      ("==", .comparison), ("<=", .comparison), ("!=", .comparison), (">=", .comparison),
      ("+", .sum), ("-", .sum), ("*", .product), ("/", .product), ("%", .product), ("^", .bitXor),
      ("&", .bitAnd), ("|", .bitOr), ("<", .comparison), (">", .comparison)]

def binaryOperator? (ts : List Token) : Option (String × Precedence) :=
  binaryOperators.find? fun operator => (Kind.sign operator.1).stands ts

def Precedence.ofFront (ts : List Token) : Precedence :=
  match binaryOperator? ts with
  | some (_, precedence) => precedence
  | none =>
    if (Kind.sign "=").stands ts && !(Kind.sign "=>").stands ts then .assignment
    else if (Kind.sign "..").stands ts then .range
    else if (Kind.keyword "as").stands ts then .cast
    else .lowest

end SourceMacros

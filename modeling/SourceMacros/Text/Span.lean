/-! Sets of characters given as runs of code points. -/

namespace SourceMacros.Text

/-- The code points `first`, `first + step`, … up to `last`. -/
structure Span where
  first : Nat
  last : Nat
  step : Nat

namespace Span

def holds (s : Span) (n : Nat) : Bool :=
  s.first ≤ n && n ≤ s.last && (n - s.first) % s.step == 0

def member (table : List Span) (c : Char) : Bool :=
  table.any (·.holds c.toNat)

end Span
end SourceMacros.Text

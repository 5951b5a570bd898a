import SourceMacros.Proofs.Expression.Depth
import SourceMacros.Proofs.Expression.Shapes
import SourceMacros.Proofs.Reader.Keeps

/-! What each character keeps, given how many brackets are open, the readers of expressions keep, if the
readers of literals and of verbatim text do: `Stepwise.keeps_expression`. -/

namespace SourceMacros.Reader

open Text Nesting

/-- A property of texts with a number of brackets open that is kept by each character outside of literals. -/
structure Stepwise (misses : List Char → Prop) (T : Nat → List Char → Prop) : Prop where
  missed : ∀ n s, T n s → misses s
  quiet : ∀ {n c s}, isQuiet c = true → T n (c :: s) → T n s
  opener : ∀ {n c s}, isOpener c = true → T n (c :: s) → T (n + 1) s
  closer : ∀ {n c s}, isCloser c = true → T (n + 1) (c :: s) → T n s

namespace Stepwise

variable {misses halts : List Char → Prop} {T : Nat → List Char → Prop} {n : Nat}

section Atoms

variable (h : Stepwise misses T)
include h

theorem drops {test : Char → Bool} (ht : Flat test) (hq : test '"' = false) (c : Char) (s : List Char)
    (hc : test c = true) : T n (c :: s) → T n s := h.quiet (isQuiet_of_flat ht hq hc)

theorem keeps_gap : Keeps misses halts (T n) (T n) gap := keeps_skip (h.drops flat_isGap (by decide))

theorem keeps_spaces : Keeps misses halts (T n) (T n) spaces :=
  keeps_skip (h.drops flat_isSpace (by decide))

theorem keeps_quiet {c : Char} (hc : isQuiet c = true) : Keeps misses halts (T n) (T n) (char c) :=
  keeps_char (h.missed n) fun _ => h.quiet hc

theorem keeps_opener {c : Char} (hc : isOpener c = true) :
    Keeps misses halts (T n) (T (n + 1)) (char c) := keeps_char (h.missed n) fun _ => h.opener hc

theorem keeps_closer {c : Char} (hc : isCloser c = true) :
    Keeps misses halts (T (n + 1)) (T n) (symbol c) :=
  h.keeps_gap.bind fun _ => keeps_char (h.missed (n + 1)) fun _ => h.closer hc

theorem keeps_symbol {c : Char} (hc : isQuiet c = true) : Keeps misses halts (T n) (T n) (symbol c) :=
  h.keeps_gap.bind fun _ => h.keeps_quiet hc

theorem keeps_identifier : Keeps misses halts (T n) (T n) identifier :=
  Reader.keeps_identifier (h.missed n) (h.drops flat_continuesIdentifier (by decide))

theorem keeps_integer : Keeps misses halts (T n) (T n) integer := by
  have hdigits : ∀ {s sign c w}, splitSign s = (sign, c :: w) → T n (c :: w) →
      (integer s).Leaves misses halts (T n) := by
    intro s sign c w hs hw
    rw [integer_of_splitSign hs]
    split
    case isTrue hc =>
      have hcontinues : continuesIdentifier c = true := by simp [continuesIdentifier, Char.isAlphanum, hc]
      have hdrops := h.drops (n := n) flat_continuesIdentifier (by decide)
      exact dropWhile_of_drops hdrops (hdrops c w hcontinues hw)
    case isFalse => exact h.missed n _ hw
  intro s hs
  cases s with
  | nil => exact h.missed n _ hs
  | cons c s =>
    by_cases hc : c = '-'
    · subst hc
      have hrest : T n s := h.quiet (by decide) hs
      cases s with
      | nil => exact h.missed n _ hrest
      | cons c w => exact hdigits rfl hrest
    · exact hdigits (splitSign_of_ne hc s) hs

theorem keeps_expressionEnd : Keeps misses halts (T n) (T n) expressionEnd := by
  intro s hs
  unfold expressionEnd
  split
  · exact hs
  · exact h.missed n s hs

theorem keeps_closed {p : Reader Expression} (hp : Keeps misses halts (T n) (T n) p) :
    Keeps misses halts (T n) (T n) (closed p) :=
  hp.bind fun _ => h.keeps_expressionEnd.bind fun _ => keeps_pure _ fun _ => id

theorem keeps_label : Keeps misses halts (T n) (T n) label :=
  (h.keeps_gap.bind fun _ => h.keeps_identifier).bind fun _ => h.keeps_spaces.bind fun _ =>
    (h.keeps_quiet (by decide)).bind fun _ => keeps_pure _ fun _ => id

end Atoms

section Lists

variable (h : Stepwise misses T) {p : Reader Expression}
include h

theorem keeps_dictionary (hp : Keeps misses halts (T (n + 1)) (T (n + 1)) p) :
    Keeps misses halts (T n) (T n) (dictionary p) := by
  have hopen : Keeps misses halts (T n) (T (n + 1)) (char '[') := h.keeps_opener (by decide)
  have hcolon : Keeps misses halts (T (n + 1)) (T (n + 1)) (symbol ':') := h.keeps_symbol (by decide)
  have hcomma : Keeps misses halts (T (n + 1)) (T (n + 1)) (symbol ',') := h.keeps_symbol (by decide)
  have hclose : Keeps misses halts (T (n + 1)) (T n) (symbol ']') := h.keeps_closer (by decide)
  have hentry : Keeps misses halts (T (n + 1)) (T (n + 1)) (entry p) :=
    hp.bind fun _ => hcolon.bind fun _ => hp.bind fun _ => keeps_pure _ fun _ => id
  refine Keeps.orElse ?_ ?_
  · exact hopen.bind fun _ => hcolon.bind fun _ => hclose.bind fun _ => keeps_pure _ fun _ => id
  · exact hopen.bind fun _ => (Keeps.separated (h.missed _) hcomma hentry).bind fun _ =>
      hcomma.optional.bind fun _ => hclose.bind fun _ => keeps_pure _ fun _ => id

theorem keeps_argumentList (hp : Keeps misses halts (T (n + 1)) (T (n + 1)) p) :
    Keeps misses halts (T n) (T n) (argumentList p) := by
  have hcomma : Keeps misses halts (T (n + 1)) (T (n + 1)) (symbol ',') := h.keeps_symbol (by decide)
  have hargument : Keeps misses halts (T (n + 1)) (T (n + 1)) (argument p) :=
    h.keeps_label.optional.bind fun _ => hp.bind fun _ => keeps_pure _ fun _ => id
  exact (h.keeps_opener (by decide)).bind fun _ =>
    (Keeps.separated (h.missed _) hcomma hargument).optional.bind fun _ => hcomma.optional.bind fun _ =>
      (h.keeps_closer (by decide)).bind fun _ => keeps_pure _ fun _ => id

theorem keeps_callOrIdentifier (hp : Keeps misses halts (T (n + 1)) (T (n + 1)) p) :
    Keeps misses halts (T n) (T n) (callOrIdentifier p) := by
  refine h.keeps_identifier.bind fun _ => (h.keeps_argumentList hp).optional.bind fun arguments => ?_
  cases arguments <;> exact keeps_pure _ fun _ => id

theorem keeps_knownShape (hp : Keeps misses halts (T (n + 1)) (T (n + 1)) p)
    (hliteral : Keeps misses halts (T n) (T n) (stringLiteral p)) :
    Keeps misses halts (T n) (T n) (knownShape p) :=
  (h.keeps_closed h.keeps_integer).orElse <| (h.keeps_closed hliteral).orElse <|
    (h.keeps_closed (h.keeps_dictionary hp)).orElse (h.keeps_closed (h.keeps_callOrIdentifier hp))

end Lists

section Whole

variable (h : Stepwise misses T)
  (hliteral : ∀ {p}, (∀ n, Keeps misses halts (T n) (T n) p) →
    ∀ n, Keeps misses halts (T n) (T n) (stringLiteral p))
  (hverbatim : ∀ n, Keeps misses halts (T n) (T n) verbatim)
include h hliteral hverbatim

theorem keeps_expressionWithin (levels n : Nat) :
    Keeps misses halts (T n) (T n) (expressionWithin levels) := by
  induction levels generalizing n with
  | zero => exact keeps_miss (h.missed n)
  | succ levels ih =>
    -- What is read in a list has one more bracket open, what is read in a literal has not.
    refine h.keeps_gap.bind fun _ => ?_
    intro s hs
    rw [expressionShape_eq]
    exact ((h.keeps_knownShape (ih (n + 1)) (hliteral ih n)).orElse (hverbatim n)) hs

theorem keeps_expression (n : Nat) : Keeps misses halts (T n) (T n) expression := fun s hs =>
  h.keeps_expressionWithin hliteral hverbatim (s.length + 1) n hs

end Whole

end Stepwise

end SourceMacros.Reader

import SourceMacros.Proofs.Expression.Sealed
import SourceMacros.Proofs.Expression.Stepwise
import SourceMacros.Proofs.Reader.Whole

/-! A balanced text is always read, unless it nests too deeply: no reader halts in it, a known shape leaves
nothing behind, and where none is known the whole text is taken, `parse_of_isBalanced`. -/

namespace SourceMacros

open Text Reader Nesting

namespace Reader

/-- Where a text is: in quotes or not, and the brackets open outside of quotes, of whatever kind. -/
structure Place where
  quoted : Bool
  depth : Nat

namespace Place

def start : Place := ⟨false, 0⟩

def next (p : Place) (c : Char) : Place :=
  if c = '"' then ⟨!p.quoted, p.depth⟩
  else if p.quoted then p
  else if isOpener c then ⟨false, p.depth + 1⟩
  else if isCloser c then ⟨false, p.depth - 1⟩
  else p

def quoting (p : Place) : Quoting := if p.quoted then .inside else .outside

def raise (p : Place) (n : Nat) : Place := ⟨p.quoted, n + p.depth⟩

/-- Backslashes may stand nowhere, line ends not in quotes, and closing brackets and what parts expressions
only in brackets or in quotes. -/
def allows (p : Place) (c : Char) : Bool :=
  c != '\\' && if p.quoted then c != '\n' else p.depth != 0 || !breaks c

/-- Quotes pair up and brackets close, and no character stands where it may not. -/
def isBalanced : Place → List Char → Bool
  | p, [] => !p.quoted && p.depth == 0
  | p, c :: s => p.allows c && (p.next c).isBalanced s

def nesting (p : Place) : Nat := p.depth + p.quoted.toNat

/-- The most brackets and quotes that are open at once. -/
def levels : Place → List Char → Nat
  | p, [] => p.nesting
  | p, c :: s => max p.nesting ((p.next c).levels s)

variable {p : Place} {n : Nat} {c : Char} {s : List Char}

theorem next_quiet (hc : isQuiet c = true) : (⟨false, n⟩ : Place).next c = ⟨false, n⟩ := by
  simp only [isQuiet, Bool.and_eq_true, bne_iff_ne, Bool.not_eq_true'] at hc
  simp [next, hc]

theorem next_opener (hc : isOpener c = true) : (⟨false, n⟩ : Place).next c = ⟨false, n + 1⟩ := by
  have hquote : c ≠ '"' := by
    rintro rfl
    exact absurd hc (by decide)
  simp [next, hquote, hc]

theorem next_closer (hc : isCloser c = true) : (⟨false, n⟩ : Place).next c = ⟨false, n - 1⟩ := by
  have hquote : c ≠ '"' := by
    rintro rfl
    exact absurd hc (by decide)
  simp [next, hquote, isOpener_of_isCloser hc, hc]

theorem isBalanced_cons : p.isBalanced (c :: s) = true ↔
    p.allows c = true ∧ (p.next c).isBalanced s = true := by
  rw [isBalanced, Bool.and_eq_true]

theorem not_breaks_of_allows (h : start.allows c = true) : breaks c = false := by
  simpa [allows, start] using (Bool.and_eq_true_iff.1 h).2

theorem takes_of_allows (h : p.allows c = true) :
    takes p.depth p.quoting c = some ((p.next c).depth, (p.next c).quoting) := by
  obtain ⟨hescape, hallows⟩ := Bool.and_eq_true_iff.1 h
  rw [bne_iff_ne] at hescape
  obtain ⟨quoted, depth⟩ := p
  cases quoted with
  | true => by_cases hquote : c = '"' <;> simp [takes, quoting, next, hescape, hquote]
  | false =>
    have hc : depth = 0 → breaks c = false := by
      rintro rfl
      simpa using hallows
    have htakes := takes_outside hc
    by_cases hquote : c = '"'
    · subst hquote
      exact htakes
    · rw [if_neg hquote] at htakes
      refine htakes.trans ?_
      simp only [quoting, next, hquote, if_false]
      split_ifs <;> simp_all

/-- The scan ahead of reading has the same open. -/
theorem next_scanAt (h : p.allows c = true) :
    (scanAt p.depth p.quoting).next c = scanAt (p.next c).depth (p.next c).quoting := by
  rw [← nextFlat_scanAt (takes_of_allows h)]
  obtain ⟨quoted, depth⟩ := p
  cases quoted <;> rfl

theorem peak_eq_levels (h : p.isBalanced s = true) : (scanAt p.depth p.quoting).peak s = p.levels s := by
  have hlength : ∀ p : Place, (scanAt p.depth p.quoting).frames.length = p.nesting := by
    rintro ⟨quoted, depth⟩
    cases quoted <;> simp [scanAt, quoting, nesting]
  induction s generalizing p with
  | nil => exact hlength p
  | cons c s ih =>
    obtain ⟨hc, hs⟩ := isBalanced_cons.1 h
    rw [Scan.peak, next_scanAt hc, ih hs, hlength, levels]

theorem tooDeepAt_eq_none_iff_levels (h : start.isBalanced s = true) :
    tooDeepAt limit [] s = none ↔ start.levels s ≤ limit := by
  rw [tooDeepAt_eq_none_iff (Nat.zero_le _), ← peak_eq_levels h]
  rfl

theorem next_raise (h : p.allows c = true) : (p.raise n).next c = (p.next c).raise n := by
  obtain ⟨quoted, depth⟩ := p
  have hclose : quoted = false → isCloser c = true → depth ≠ 0 := by
    rintro rfl hc rfl
    have hbreaks := not_breaks_of_allows h
    rw [breaks, hc, Bool.or_true] at hbreaks
    cases hbreaks
  by_cases hquote : c = '"'
  · simp [next, raise, hquote]
  cases quoted with
  | true => simp [next, raise, hquote]
  | false =>
    by_cases hopen : isOpener c = true
    · simp [next, raise, hquote, hopen, Nat.add_assoc]
    by_cases hc : isCloser c = true
    · simp [next, raise, hquote, hopen, hc, Nat.add_sub_assoc (Nat.pos_of_ne_zero (hclose rfl hc))]
    · simp [next, raise, hquote, hopen, hc]

/-- What is allowed with more brackets around is allowed without them, or breaks there. -/
theorem allows_or_breaks (h : (p.raise n).allows c = true) :
    p.allows c = true ∨ p = start ∧ breaks c = true := by
  obtain ⟨quoted, depth⟩ := p
  cases quoted with
  | true => exact .inl h
  | false =>
    by_cases hd : depth = 0 ∧ breaks c = true
    · obtain ⟨rfl, hbreaks⟩ := hd
      exact .inr ⟨rfl, hbreaks⟩
    · refine .inl (Bool.and_eq_true_iff.2 ⟨(Bool.and_eq_true_iff.1 h).1, ?_⟩)
      simpa [imp_iff_not_or] using hd

end Place

section Readers

variable {n : Nat} {s : List Char}

/-- The text is balanced behind brackets that are open. -/
def Balanced (n : Nat) (s : List Char) : Prop := (⟨false, n⟩ : Place).isBalanced s = true

theorem stepwise_balanced : Stepwise (fun _ => True) Balanced where
  missed _ _ _ := trivial
  quiet hc h := by
    have hs := (Place.isBalanced_cons.1 h).2
    rwa [Place.next_quiet hc] at hs
  opener hc h := by
    have hs := (Place.isBalanced_cons.1 h).2
    rwa [Place.next_opener hc] at hs
  closer hc h := by
    have hs := (Place.isBalanced_cons.1 h).2
    rwa [Place.next_closer hc] at hs

/-- A literal in a balanced text is over on its line, with no interpolation. -/
theorem exists_literalText (h : (⟨true, n⟩ : Place).isBalanced s = true) :
    ∃ r, (literalText s).2 = '"' :: r ∧ Balanced n r := by
  induction s with
  | nil => cases h
  | cons c s ih =>
    obtain ⟨hallows, hs⟩ := Place.isBalanced_cons.1 h
    simp only [Place.allows, if_true, Bool.and_eq_true, bne_iff_ne] at hallows
    by_cases hquote : c = '"'
    · subst hquote
      exact ⟨s, rfl, hs⟩
    · rw [Place.next, if_neg hquote, if_pos rfl] at hs
      rw [literalText_cons hallows.1 ⟨hquote, hallows.2⟩]
      exact ih hs

/-- From texts in `T` the reader leaves rests in `U`, or it misses; it never halts. -/
abbrev Unhalting {α : Type} (T U : List Char → Prop) (p : Reader α) : Prop :=
  Keeps (fun _ => True) (fun _ => False) T U p

theorem unhalting_stringLiteral (p : Reader Expression) :
    Unhalting (Balanced n) (Balanced n) (stringLiteral p) := by
  have hopen : Unhalting (Balanced n) (fun s => (⟨true, n⟩ : Place).isBalanced s = true) (char '"') :=
    keeps_char (fun _ _ => trivial) fun _ h => (Place.isBalanced_cons.1 h).2
  have hsegments :
      Unhalting (fun s => (⟨true, n⟩ : Place).isBalanced s = true) (Balanced n) (segments p) := by
    intro s hs
    obtain ⟨r, hr, hbalanced⟩ := exists_literalText hs
    rw [segments_of_quote p hr]
    exact hbalanced
  exact hopen.bind fun _ => hsegments.bind fun _ => keeps_pure _ fun _ => id

/-- What verbatim reading leaves is balanced behind the brackets it has not opened itself. -/
theorem balanced_splitVerbatim {p : Place} (h : (p.raise n).isBalanced s = true) :
    Balanced n (splitVerbatim p.depth p.quoting s).2 := by
  induction s generalizing p with
  | nil =>
    simp only [Place.raise, Place.isBalanced, Bool.and_eq_true, beq_iff_eq, Nat.add_eq_zero_iff] at h
    rw [splitVerbatim, h.2.1]
    rfl
  | cons c s ih =>
    obtain ⟨hallows, hs⟩ := Place.isBalanced_cons.1 h
    rw [splitVerbatim_of_takes]
    -- What stops verbatim reading stands outside of its own brackets, in the `n` around them.
    rcases Place.allows_or_breaks hallows with hgoes | ⟨rfl, hbreaks⟩
    · rw [Place.next_raise hgoes] at hs
      rw [Place.takes_of_allows hgoes]
      exact ih hs
    · have hstops : takes Place.start.depth Place.start.quoting c = none :=
        takes_eq_none_iff.2 ⟨rfl, hbreaks⟩
      rw [hstops]
      exact h

theorem unhalting_verbatim : Unhalting (Balanced n) (Balanced n) verbatim := by
  intro s hs
  unfold verbatim
  dsimp only
  split
  · trivial
  · exact balanced_splitVerbatim (p := .start) hs

theorem unhalting_expression : Unhalting (Balanced n) (Balanced n) expression :=
  stepwise_balanced.keeps_expression (fun _ _ => unhalting_stringLiteral _)
    (fun _ => unhalting_verbatim) n

theorem eq_nil_of_stops (hs : Balanced 0 s) (h : Stops s) : s = [] := by
  cases s with
  | nil => rfl
  | cons c s =>
    have hbreaks : breaks c = true := h c rfl
    rw [Place.not_breaks_of_allows (Place.isBalanced_cons.1 hs).1] at hbreaks
    cases hbreaks

/-- Where a known shape ends outside of brackets, nothing but spaces is left. -/
theorem dropWhile_eq_nil_of_ends (hs : Balanced 0 s) (h : endsExpression s = true) :
    s.dropWhile isGap = [] := by
  induction s with
  | nil => rfl
  | cons c s ih =>
    obtain ⟨hallows, hnext⟩ := Place.isBalanced_cons.1 hs
    by_cases hspace : isSpace c = true
    · rw [endsExpression_space hspace] at h
      have hquiet : isQuiet c = true := isQuiet_of_flat flat_isSpace (by decide) hspace
      rw [Place.next_quiet hquiet] at hnext
      rw [List.dropWhile_cons_of_pos (isGap_of_isSpace hspace)]
      exact ih hnext h
    · have hbreaks := Place.not_breaks_of_allows hallows
      rw [endsExpression_cons (by simpa using hspace), ← breaks, hbreaks, Bool.or_false,
        Bool.and_eq_true, beq_iff_eq, beq_iff_eq] at h
      obtain ⟨rfl, hline⟩ := h
      obtain ⟨t, rfl⟩ : ∃ t, s = '\n' :: t := List.head?_eq_some_iff.1 hline
      exact absurd (Place.not_breaks_of_allows (Place.isBalanced_cons.1 hnext).1) (by decide)

theorem verbatim_of_balanced {t : String} (hne : t ≠ "") (htrim : trim t.toList = t.toList)
    (hs : Balanced 0 t.toList) : verbatim t.toList = .done (.other t) [] := by
  have hrest : (splitVerbatim 0 .outside t.toList).2 = [] :=
    eq_nil_of_stops (balanced_splitVerbatim (p := .start) hs) (stops_splitVerbatim _ _ _)
  have hall := splitVerbatim_append 0 .outside t.toList
  rw [hrest, List.append_nil] at hall
  rw [verbatim_eq_done, hall, htrim]
  exact ⟨by simpa using hne, rfl, hrest.symm⟩

/-- Where every known shape misses, the text is read whole, and no reader halts. -/
theorem expression_of_balanced {t : String} (hne : t ≠ "") (htrim : trim t.toList = t.toList)
    (hs : Balanced 0 t.toList) : ∃ e r, expression t.toList = .done e r ∧ r.dropWhile isGap = [] ∧
      ∀ text, e = .other text → text = t := by
  have hread : expression t.toList = (knownShape expression <|> verbatim) t.toList := by
    rw [expression_eq, bind_apply]
    simp only [gap, skip, (trimmed_of_trim_eq htrim).dropWhile_isGap]
    exact expressionShape_eq expression t.toList
  have hkeeps := stepwise_balanced.keeps_knownShape unhalting_expression (unhalting_stringLiteral _) hs
  rw [orElse_apply] at hread
  cases hshape : knownShape expression t.toList with
  | done e r =>
    rw [hshape] at hread hkeeps
    obtain ⟨-, -, -, -, hends, -⟩ := expression_eq_done hread
    refine ⟨e, r, hread, dropWhile_eq_nil_of_ends hkeeps hends, ?_⟩
    rintro text rfl
    exact absurd hshape knownShape_ne_other
  | miss place =>
    rw [hshape] at hread
    refine ⟨.other t, [], hread.trans (verbatim_of_balanced hne htrim hs), rfl, ?_⟩
    rintro _ ⟨⟩
    rfl
  | halt place =>
    rw [hshape] at hkeeps
    exact hkeeps.elim

end Readers
end Reader

/-- A balanced text with no blanks around it is read just where it does not nest too deeply, and if its shape
is not known, as it stands. -/
theorem Expression.parse_of_isBalanced {t : String} (hne : t ≠ "") (htrim : trim t.toList = t.toList)
    (hs : Place.start.isBalanced t.toList = true) :
    ((∃ e, Expression.parse t = .ok e) ↔ Place.start.levels t.toList ≤ limit) ∧
      ∀ text, Expression.parse t = .ok (.other text) → text = t := by
  obtain ⟨e, r, hread, hrest, hother⟩ := expression_of_balanced hne htrim hs
  have hdeep := Place.tooDeepAt_eq_none_iff_levels hs
  constructor
  · rw [← hdeep]
    constructor
    · rintro ⟨_, h⟩
      exact (read_eq_ok.1 h).1
    · exact fun h => ⟨e, read_eq_ok.2 ⟨h, r, hread, hrest⟩⟩
  · intro text h
    obtain ⟨-, r', hread', -⟩ := read_eq_ok.1 h
    rw [hread] at hread'
    exact hother text (Outcome.done.inj hread').1

/-- Two calls: the first closes its brackets in another order, and the second holds a literal with a comma and
a bracket. -/
def mixedText : String := "f(a, [b\x7d] + g(\"x, (\")"

theorem Expression.parse_of_isBalanced_mixed : mixedText ≠ "" ∧
    trim mixedText.toList = mixedText.toList ∧ Place.start.isBalanced mixedText.toList = true ∧
    (∃ e, Expression.parse mixedText = .ok e) ∧
    (∀ text, Expression.parse mixedText = .ok (.other text) → text = mixedText) ∧
    Expression.parse mixedText = .ok (.other mixedText) := by
  have htrim : trim mixedText.toList = mixedText.toList := by decide
  have hs : Place.start.isBalanced mixedText.toList = true := by decide
  obtain ⟨hread, hother⟩ := Expression.parse_of_isBalanced (by decide) htrim hs
  exact ⟨by decide, htrim, hs, hread.2 (by decide), hother, by decide +kernel⟩

end SourceMacros

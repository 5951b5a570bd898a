import SourceMacros.Proofs.Expression.Spelled
import SourceMacros.Proofs.Reader.Levels

/-! Whatever is read as an expression is spelled by the text that was taken, `expression_eq_done`. A part
that stands verbatim is one that no known shape took where it stood. -/

namespace SourceMacros

open Text Reader

namespace Reader

/-- After the gap in front of it, the text is verbatim up to `r`, but for the blanks around it. -/
structure Verbatim (text : String) (u r : List Char) : Prop where
  shape : expressionShape expression (u ++ r) = .done (.other text) r
  head : ∀ k ∈ u.head?, isGap k = false

/-- In texts shorter than `n`, whatever is read as an expression is spelled by the text that was taken
after a gap. -/
def Sound (n : Nat) : Prop :=
  ∀ s e r, s.length < n → expression s = .done e r →
    ∃ g u, Gap g ∧ s = g ++ (u ++ r) ∧ endsExpression r = true ∧ e.Spelled Verbatim u r

theorem endsExpression_space {c : Char} (h : isSpace c = true) (s : List Char) :
    endsExpression (c :: s) = endsExpression s := by simp [endsExpression, h]

theorem endsExpression_cons {c : Char} (h : isSpace c = false) (s : List Char) :
    endsExpression (c :: s) =
      (c == '\r' && s.head? == some '\n' || (isDelimiter c || Nesting.isCloser c)) := by
  simp only [endsExpression, dropWhile_cons_of_neg h]
  split
  case h_1 heq => cases heq
  case h_2 heq =>
    obtain ⟨rfl, rfl⟩ := List.cons.inj heq
    rfl
  case h_3 hne heq =>
    obtain ⟨rfl, rfl⟩ := List.cons.inj heq
    have hcr : (c == '\r' && s.head? == some '\n') = false := by
      cases s with
      | nil => simp
      | cons d s =>
        simp only [List.head?_cons, Bool.and_eq_false_imp, beq_iff_eq, beq_eq_false_iff_ne, ne_eq,
          Option.some.injEq]
        rintro rfl rfl
        exact hne _ rfl rfl
    simp [hcr]

theorem expressionEnd_eq_done {s r : List Char} {a : Unit} :
    expressionEnd s = .done a r ↔ endsExpression s = true ∧ s = r := by
  unfold expressionEnd
  split <;> simp_all

theorem closed_eq_done {p : Reader Expression} {s r : List Char} {e : Expression} :
    closed p s = .done e r ↔ p s = .done e r ∧ endsExpression r = true := by
  unfold closed
  simp only [bind_eq_done, expressionEnd_eq_done, pure_eq_done]
  constructor
  · rintro ⟨a, t, hp, _, _, ⟨hends, rfl⟩, rfl, rfl⟩
    exact ⟨hp, hends⟩
  · rintro ⟨hp, hends⟩
    exact ⟨e, r, hp, (), r, ⟨hends, rfl⟩, rfl, rfl⟩

theorem integer_eq_done {s r : List Char} {e : Expression} (h : integer s = .done e r) :
    ∃ text, e = .integer text ∧ isIntegerText text.toList = true ∧ s = text.toList ++ r ∧
      EndsWord r := by
  have hsplit : s = (splitSign s).1 ++ (splitSign s).2 := by
    unfold splitSign
    split <;> simp
  have hsign : (splitSign s).1 = ['-'] ∨ (splitSign s).1 = [] := by
    unfold splitSign
    split <;> simp
  unfold integer at h
  split at h
  case h_1 sign c t ht =>
    rw [ht] at hsplit hsign
    split at h
    case isTrue hc =>
      simp only [Outcome.done.injEq] at h
      obtain ⟨rfl, rfl⟩ := h
      refine ⟨_, rfl, ?_, ?_, head?_dropWhile _ t⟩
      · have hall : ∀ x ∈ t.takeWhile continuesIdentifier, continuesIdentifier x = true :=
          fun _ hx => List.mem_takeWhile_imp hx
        have hminus : c ≠ '-' := by rintro rfl; simp at hc
        rcases hsign with hs | hs <;> simp only at hs <;> subst hs <;>
          simp [isIntegerText, splitSign, hc, hminus]
      · rw [String.toList_ofList, hsplit]
        simp [List.takeWhile_append_dropWhile]
    case isFalse => cases h
  case h_2 => cases h

theorem literalText_append (s : List Char) : (literalText s).1 ++ (literalText s).2 = s := by
  fun_induction literalText s <;> simp_all

theorem isLiteralText_cons {c : Char} (hb : c ≠ '\\') (s : List Char) :
    isLiteralText (c :: s) = (c != '"' && c != '\n' && isLiteralText s) := by
  have hne : ∀ d t, c = '\\' → s = d :: t → False := fun _ _ hc _ => hb hc
  rw [isLiteralText.eq_3 c s hne]
  have hb' : (c != '\\') = true := by simpa using hb
  rw [hb', Bool.and_true]

theorem isLiteralText_literalText (s : List Char) (h : (literalText s).2 ≠ []) :
    isLiteralText (literalText s).1 = true := by
  fun_induction literalText s with
  | case1 => rfl
  | case2 r => rfl
  | case3 c r hc ih => simpa [isLiteralText, hc] using ih h
  | case4 c r hne hc => rfl
  | case5 c r hne hc ih =>
    have hb : c ≠ '\\' := by
      rintro rfl
      cases r with
      | nil => exact h rfl
      | cons d r => exact hne d r rfl rfl
    rw [isLiteralText_cons hb, ih h]
    simpa using hc

theorem segmentsSpelled_lead {lead : List Char} (hlead : isLiteralText lead = true)
    {parts : List Segment} (hparts : ∀ s ∈ parts.head?, s.isText = false) {t r : List Char}
    (h : SegmentsSpelled Verbatim parts t r) :
    SegmentsSpelled Verbatim (textSegment lead ++ parts) (lead ++ t) r := by
  cases lead with
  | nil => exact h
  | cons c lead => exact ⟨⟨by simp, by simpa using hlead, hparts⟩, t, by simp, h⟩

/-- A literal ends at a quote or goes on with an interpolation. -/
theorem segments_eq_done {p : Reader Expression} (hp : Shrinks p) {s r : List Char}
    {parts : List Segment} (h : segments p s = .done parts r) :
    (parts = textSegment (literalText s).1 ∧ (literalText s).2 = '"' :: r) ∨
      ∃ value more s₁ s₂ s₃, (literalText s).2 = '\\' :: '(' :: s₁ ∧ p s₁ = .done value s₂ ∧
        symbol ')' s₂ = .done () s₃ ∧ segments p s₃ = .done more r ∧
        parts = textSegment (literalText s).1 ++ .interpolation value :: more := by
  have hhalt : (∃ t, (literalText s).2 = '"' :: t) ∨ (∃ t, (literalText s).2 = '\\' :: '(' :: t) := by
    unfold segments at h
    simp only [segmentsWithin] at h
    split at h
    case h_1 t ht => exact .inl ⟨t, ht⟩
    case h_2 t ht => exact .inr ⟨t, ht⟩
    case h_3 => cases h
  rcases hhalt with ⟨t, ht⟩ | ⟨t, ht⟩
  · rw [segments_of_quote p ht, Outcome.done.injEq] at h
    exact .inl ⟨h.1.symm, by rw [ht, h.2]⟩
  · rw [segments_of_interpolation hp ht] at h
    simp only [bind_eq_done, pure_eq_done] at h
    obtain ⟨value, s₂, hvalue, _, s₃, hclose, more, _, hmore, hparts, rfl⟩ := h
    exact .inr ⟨value, more, t, s₂, s₃, ht, hvalue, hclose, hmore, hparts.symm⟩

theorem segments_sound {n : Nat} (hn : Sound n) {s r : List Char} {parts : List Segment}
    (hs : s.length < n) (h : segments expression s = .done parts r) :
    ∃ t, s = t ++ r ∧ SegmentsSpelled Verbatim parts t r := by
  induction hk : s.length using Nat.strongRecOn generalizing s parts with
  | _ k ih =>
    have hsplit := literalText_append s
    rcases segments_eq_done shrinks_expression h with
      ⟨rfl, hq⟩ | ⟨value, more, s₁, s₂, s₃, hi, hvalue, hclose, hmore, rfl⟩
    · have hlead := isLiteralText_literalText s (by simp [hq])
      rw [hq] at hsplit
      refine ⟨(literalText s).1 ++ ['"'], by simpa using hsplit.symm, ?_⟩
      have hend : SegmentsSpelled Verbatim [] ['"'] r := rfl
      simpa using segmentsSpelled_lead hlead (by simp) hend
    · have hlead := isLiteralText_literalText s (by simp [hi])
      obtain ⟨h', hh', rfl⟩ := exists_gap_of_symbol hclose
      have hlen₁ : s₁.length < s.length := by
        have := length_literalText s
        rw [hi] at this
        simp only [List.length_cons] at this
        omega
      obtain ⟨g, u, hg, rfl, hends, hu⟩ := hn s₁ value _ (by omega) hvalue
      have hlen₃ : s₃.length < s.length := by
        simp only [List.length_append, List.length_cons] at hlen₁
        omega
      obtain ⟨t, rfl, ht⟩ := ih s₃.length (by omega) (by omega) hmore rfl
      refine ⟨(literalText s).1 ++ '\\' :: '(' :: (g ++ (u ++ (h' ++ ')' :: t))), ?_, ?_⟩
      · rw [hi] at hsplit
        simpa using hsplit.symm
      · exact segmentsSpelled_lead hlead (by simp [Segment.isText])
          ⟨g, u, h', t, hg, hh', rfl, hu, hends, ht⟩

/-- The end of a list, with a comma before it or without. -/
def closing (bracket : Char) : Reader Unit := do
  let _ ← optional (symbol ',')
  symbol bracket

theorem closing_eq_done {bracket : Char} {s r : List Char} (h : closing bracket s = .done () r) :
    ∃ t, s = t ++ r ∧ Closing bracket t := by
  obtain ⟨o, s₁, ho, hs₁⟩ := bind_eq_done.1 h
  obtain ⟨g, hg, rfl⟩ := exists_gap_of_symbol hs₁
  rcases optional_eq_done.1 ho with ⟨_, rfl, hc⟩ | ⟨rfl, rfl, _⟩
  · obtain ⟨k, hk, rfl⟩ := exists_gap_of_symbol hc
    exact ⟨k ++ ',' :: (g ++ [bracket]), by simp, k, hk, .inr ⟨g, hg, rfl⟩⟩
  · exact ⟨g ++ [bracket], by simp, g, hg, .inl rfl⟩

section Items

variable {α : Type} {p : Reader α} {bracket : Char} {Spell : List α → List Char → List Char → Prop}
  {n : Nat}

theorem many_sound (hp : ∀ a items s t r, s.length < n → p s = .done a (t ++ r) →
      Continues bracket items (fun t => Spell items t r) t →
      ∃ v, s = v ++ (t ++ r) ∧ Spell (a :: items) (v ++ t) r)
    {items : List α} {s s₁ r : List Char} (hs : s.length < n)
    (h : many (do symbol ','; p) s = .done items s₁) (hclose : closing bracket s₁ = .done () r) :
    ∃ t, s = t ++ r ∧ Continues bracket items (fun t => Spell items t r) t := by
  induction items generalizing s with
  | nil =>
    obtain ⟨rfl, _⟩ := many_eq_nil h
    obtain ⟨t, rfl, ht⟩ := closing_eq_done hclose
    exact ⟨t, rfl, .inl ⟨rfl, ht⟩⟩
  | cons a items ih =>
    obtain ⟨s₂, hstep, hlt, hmore⟩ := many_eq_cons h
    obtain ⟨_, s₃, hcomma, ha⟩ := bind_eq_done.1 hstep
    obtain ⟨g, hg, rfl⟩ := exists_gap_of_symbol hcomma
    obtain ⟨t, rfl, ht⟩ := ih (by omega) hmore
    simp only [List.length_append, List.length_cons] at hs
    obtain ⟨v, rfl, hv⟩ := hp a items s₃ t r (by omega) ha ht
    exact ⟨g ++ ',' :: (v ++ t), by simp, .inr ⟨g, v ++ t, hg, rfl, hv⟩⟩

theorem separated_sound (hp : ∀ a items s t r, s.length < n → p s = .done a (t ++ r) →
      Continues bracket items (fun t => Spell items t r) t →
      ∃ v, s = v ++ (t ++ r) ∧ Spell (a :: items) (v ++ t) r)
    (hshrinks : Shrinks p) {items : List α} {s s₁ r : List Char} (hs : s.length < n)
    (h : separated (symbol ',') p s = .done items s₁) (hclose : closing bracket s₁ = .done () r) :
    ∃ t, s = t ++ r ∧ Spell items t r := by
  obtain ⟨a, s₂, ha, h₂⟩ := bind_eq_done.1 h
  obtain ⟨more, s₃, hmore, h₃⟩ := bind_eq_done.1 h₂
  obtain ⟨rfl, rfl⟩ := pure_eq_done.1 h₃
  have hlt := hshrinks s a s₂ ha
  obtain ⟨t, rfl, ht⟩ := many_sound hp (by omega) hmore hclose
  obtain ⟨v, rfl, hv⟩ := hp a more s t r hs ha ht
  exact ⟨v ++ t, by simp, hv⟩

end Items

theorem entry_sound {n : Nat} (hn : Sound n) {a : Entry} {items : List Entry} {s t r : List Char}
    (hs : s.length < n) (h : entry expression s = .done a (t ++ r))
    (ht : Continues ']' items (fun t => EntriesSpelled Verbatim items t r) t) :
    ∃ v, s = v ++ (t ++ r) ∧ EntriesSpelled Verbatim (a :: items) (v ++ t) r := by
  simp only [entry, bind_eq_done, pure_eq_done] at h
  obtain ⟨key, s₁, hkey, _, s₂, hcolon, value, _, hvalue, rfl, rfl⟩ := h
  obtain ⟨k, hk, rfl⟩ := exists_gap_of_symbol hcolon
  obtain ⟨g, u, hg, rfl, hends, hu⟩ := hn s key _ hs hkey
  simp only [List.length_append, List.length_cons] at hs
  obtain ⟨l, v, hl, rfl, hends', hv⟩ := hn s₂ value (t ++ r) (by omega) hvalue
  exact ⟨g ++ (u ++ (k ++ ':' :: (l ++ v))), by simp,
    g, u, k, l, v, t, hg, hk, hl, by simp, hu, hends, hv, hends', ht⟩

theorem label_eq_done {s r : List Char} {name : String} (h : label s = .done name r) :
    ∃ l, s = l ++ r ∧ ∀ g, Gap g → LabelSpelled (some name) (l ++ g) := by
  simp only [label, Reader.name, bind_eq_done, pure_eq_done] at h
  obtain ⟨found, s₁, ⟨_, s₂, hgap, hname⟩, _, s₃, hspaces, _, rest, hcolon, rfl, rfl⟩ := h
  obtain ⟨g, hg, hs⟩ := exists_gap s
  rw [← skip_eq_done.1 hgap] at hs
  obtain ⟨hid, rfl, _⟩ := identifier_eq_done hname
  rw [char_eq_done.1 hcolon] at hspaces
  have hs₁ : s₁.takeWhile isSpace ++ ':' :: rest = s₁ := by
    rw [skip_eq_done.1 hspaces, List.takeWhile_append_dropWhile]
  refine ⟨g ++ (found.toList ++ (s₁.takeWhile isSpace ++ [':'])), ?_, fun k hk =>
    ⟨g, s₁.takeWhile isSpace, k, hg, fun _ hc => List.mem_takeWhile_imp hc, hk, hid, by simp⟩⟩
  rw [hs, List.append_assoc, List.append_assoc, List.append_assoc]
  exact congrArg _ (congrArg _ hs₁.symm)

theorem argument_sound {n : Nat} (hn : Sound n) {a : Argument} {items : List Argument}
    {s t r : List Char} (hs : s.length < n) (h : argument expression s = .done a (t ++ r))
    (ht : Continues ')' items (fun t => ArgumentsSpelled Verbatim items t r) t) :
    ∃ v, s = v ++ (t ++ r) ∧ ArgumentsSpelled Verbatim (a :: items) (v ++ t) r := by
  simp only [argument, bind_eq_done, pure_eq_done] at h
  obtain ⟨o, s₁, ho, value, _, hvalue, rfl, rfl⟩ := h
  have hlabel : ∃ l, s = l ++ s₁ ∧ ∀ g, Gap g → LabelSpelled o (l ++ g) := by
    rcases optional_eq_done.1 ho with ⟨name, rfl, hname⟩ | ⟨rfl, rfl, _⟩
    · exact label_eq_done hname
    · exact ⟨[], rfl, fun g hg => hg⟩
  obtain ⟨l, rfl, hl⟩ := hlabel
  rw [List.length_append] at hs
  obtain ⟨g, u, hg, rfl, hends, hu⟩ := hn s₁ value (t ++ r) (by omega) hvalue
  exact ⟨l ++ g ++ u, by simp, l ++ g, u, t, hl g hg, by simp, hu, hends, ht⟩

theorem shrinks_entry : Shrinks (entry expression) :=
  Steady.shrinks fun _ => shrinks_expression.steady.entry

theorem shrinks_argument : Shrinks (argument expression) :=
  Steady.shrinks fun _ => shrinks_expression.steady.argument

theorem stringLiteral_sound {n : Nat} (hn : Sound n) {s r : List Char} {e : Expression}
    (hs : s.length ≤ n) (h : stringLiteral expression s = .done e r) :
    ∃ u, s = u ++ r ∧ e.Spelled Verbatim u r := by
  simp only [stringLiteral, bind_eq_done, pure_eq_done, char_eq_done] at h
  obtain ⟨_, s₁, rfl, parts, _, hparts, rfl, rfl⟩ := h
  obtain ⟨t, rfl, ht⟩ := segments_sound hn (Nat.lt_of_succ_le hs) hparts
  exact ⟨'"' :: t, rfl, t, rfl, ht⟩

theorem dictionary_sound {n : Nat} (hn : Sound n) {s r : List Char} {e : Expression}
    (hs : s.length ≤ n) (h : dictionary expression s = .done e r) :
    ∃ u, s = u ++ r ∧ e.Spelled Verbatim u r := by
  rcases orElse_eq_done.1 h with h | ⟨_, h⟩
  · simp only [emptyDictionary, bind_eq_done, pure_eq_done, char_eq_done] at h
    obtain ⟨_, s₁, rfl, _, s₂, hcolon, _, _, hclose, rfl, rfl⟩ := h
    obtain ⟨g, hg, rfl⟩ := exists_gap_of_symbol hcolon
    obtain ⟨k, hk, rfl⟩ := exists_gap_of_symbol hclose
    exact ⟨'[' :: (g ++ ':' :: (k ++ [']'])), by simp, .inl ⟨rfl, g, k, hg, hk, rfl⟩⟩
  · simp only [filledDictionary, bind_eq_done, pure_eq_done, char_eq_done] at h
    obtain ⟨_, s₁, rfl, entries, s₂, hentries, o, s₃, ho, _, _, hclose, rfl, rfl⟩ := h
    obtain ⟨t, rfl, ht⟩ := separated_sound (fun _ _ _ _ _ => entry_sound hn) shrinks_entry
      (Nat.lt_of_succ_le hs) hentries (bind_eq_done.2 ⟨o, s₃, ho, hclose⟩)
    exact ⟨'[' :: t, rfl, .inr ⟨t, rfl, ht⟩⟩

theorem argumentList_sound {n : Nat} (hn : Sound n) {s r : List Char} {arguments : List Argument}
    (hs : s.length ≤ n) (h : argumentList expression s = .done arguments r) :
    ∃ t, s = '(' :: (t ++ r) ∧
      ((arguments = [] ∧ Closing ')' t) ∨ ArgumentsSpelled Verbatim arguments t r) := by
  simp only [argumentList, bind_eq_done, pure_eq_done, char_eq_done] at h
  obtain ⟨_, s₁, rfl, o, s₂, ho, o', s₃, ho', _, _, hclose, rfl, rfl⟩ := h
  have hend : closing ')' s₂ = .done () _ := bind_eq_done.2 ⟨o', s₃, ho', hclose⟩
  rcases optional_eq_done.1 ho with ⟨items, rfl, hitems⟩ | ⟨rfl, rfl, _⟩
  · obtain ⟨t, rfl, ht⟩ := separated_sound (fun _ _ _ _ _ => argument_sound hn) shrinks_argument
      (Nat.lt_of_succ_le hs) hitems hend
    exact ⟨t, rfl, .inr ht⟩
  · obtain ⟨t, rfl, ht⟩ := closing_eq_done hend
    exact ⟨t, rfl, .inl ⟨rfl, ht⟩⟩

theorem callOrIdentifier_sound {n : Nat} (hn : Sound n) {s r : List Char} {e : Expression}
    (hs : s.length ≤ n) (h : callOrIdentifier expression s = .done e r) :
    ∃ u, s = u ++ r ∧ e.Spelled Verbatim u r := by
  obtain ⟨name, s₁, hname, hrest⟩ := bind_eq_done.1 h
  obtain ⟨hid, rfl, _⟩ := identifier_eq_done hname
  obtain ⟨o, s₂, ho, hpure⟩ := bind_eq_done.1 hrest
  rw [List.length_append] at hs
  rcases optional_eq_done.1 ho with ⟨arguments, rfl, harguments⟩ | ⟨rfl, rfl, _⟩
  · obtain ⟨rfl, rfl⟩ := pure_eq_done.1 hpure
    obtain ⟨t, rfl, ht⟩ := argumentList_sound hn (by omega) harguments
    exact ⟨name.toList ++ '(' :: t, by simp, name, t, rfl, hid, rfl, ht⟩
  · obtain ⟨rfl, rfl⟩ := pure_eq_done.1 hpure
    exact ⟨name.toList, rfl, rfl, hid⟩

theorem splitVerbatim_append (depth : Nat) (quoting : Quoting) (s : List Char) :
    (splitVerbatim depth quoting s).1 ++ (splitVerbatim depth quoting s).2 = s := by
  fun_induction splitVerbatim depth quoting s <;> simp_all

/-- Verbatim text goes no further: nothing follows, or a delimiter or a closing bracket. -/
def Stops (c : List Char) : Prop := ∀ k ∈ c.head?, (isDelimiter k || Nesting.isCloser k) = true

theorem stops_nil : Stops [] := by simp [Stops]

theorem stops_cons {k : Char} {c : List Char} (hk : (isDelimiter k || Nesting.isCloser k) = true) :
    Stops (k :: c) := by
  intro d hd
  rw [← Option.some.inj hd]
  exact hk

theorem Stops.endsExpression {c : List Char} (h : Stops c) : endsExpression c = true := by
  cases c with
  | nil => rfl
  | cons k c =>
    have hk := h k rfl
    have hspace : isSpace k = false := by
      by_contra hs
      simp only [isSpace, Bool.not_eq_false, Bool.or_eq_true, beq_iff_eq] at hs
      rcases hs with rfl | rfl <;> exact absurd hk (by decide)
    rw [endsExpression_cons hspace, hk, Bool.or_true]

theorem Stops.others {c : List Char} (h : Stops c) (texts : List (List Char)) :
    Stops (othersWritten texts c) := by
  cases texts with
  | nil => exact h
  | cons text texts => exact stops_cons rfl

theorem stops_splitVerbatim (depth : Nat) (quoting : Quoting) (s : List Char) :
    Stops (splitVerbatim depth quoting s).2 := by
  unfold Stops
  fun_induction splitVerbatim depth quoting s <;> simp_all

/-- What is taken spells the expression and stands in front of an end of expressions. -/
theorem Sound.expressionShape_eq_done {n : Nat} (hn : Sound n) {s r : List Char} {e : Expression}
    (hs : s.length ≤ n) (hhead : ∀ k ∈ s.head?, isGap k = false)
    (h : expressionShape expression s = .done e r) :
    ∃ u, s = u ++ r ∧ endsExpression r = true ∧ e.Spelled Verbatim u r := by
  have hclosed : ∀ {p : Reader Expression}, closed p s = .done e r →
      (p s = .done e r → ∃ u, s = u ++ r ∧ e.Spelled Verbatim u r) →
      ∃ u, s = u ++ r ∧ endsExpression r = true ∧ e.Spelled Verbatim u r := by
    intro p hp hsound
    obtain ⟨hdone, hends⟩ := closed_eq_done.1 hp
    obtain ⟨u, hu, hspelled⟩ := hsound hdone
    exact ⟨u, hu, hends, hspelled⟩
  have hshape := h
  rcases orElse_eq_done.1 h with h | ⟨_, h⟩
  · refine hclosed h fun hdone => ?_
    obtain ⟨text, rfl, htext, rfl, _⟩ := integer_eq_done hdone
    exact ⟨text.toList, rfl, rfl, htext⟩
  rcases orElse_eq_done.1 h with h | ⟨_, h⟩
  · exact hclosed h fun hdone => stringLiteral_sound hn hs hdone
  rcases orElse_eq_done.1 h with h | ⟨_, h⟩
  · exact hclosed h fun hdone => dictionary_sound hn hs hdone
  rcases orElse_eq_done.1 h with h | ⟨_, h⟩
  · exact hclosed h fun hdone => callOrIdentifier_sound hn hs hdone
  · simp only [verbatim] at h
    split at h
    · cases h
    · obtain ⟨rfl, rfl⟩ := Outcome.done.inj h
      have hsplit := splitVerbatim_append 0 .outside s
      refine ⟨_, hsplit.symm, (stops_splitVerbatim 0 .outside s).endsExpression, ?_, fun k hk => ?_⟩
      · rw [hsplit, hshape]
      · rw [← hsplit] at hhead
        refine hhead k ?_
        rw [List.head?_append, Option.mem_def.1 hk]
        rfl

theorem Sound.expression_eq_done {n : Nat} (hn : Sound n) {s r : List Char} {e : Expression}
    (hs : s.length ≤ n) (h : expression s = .done e r) :
    ∃ g u, Gap g ∧ s = g ++ (u ++ r) ∧ endsExpression r = true ∧ e.Spelled Verbatim u r := by
  obtain ⟨g, hg, hsplit⟩ := exists_gap s
  rw [expression_eq] at h
  obtain ⟨_, s₁, hgap, hshape⟩ := bind_eq_done.1 h
  rw [← skip_eq_done.1 hgap] at hsplit
  have hlen := congrArg List.length hsplit
  rw [List.length_append] at hlen
  have hhead : ∀ k ∈ s₁.head?, isGap k = false := by
    rw [skip_eq_done.1 hgap]
    exact head?_dropWhile isGap s
  obtain ⟨u, rfl, hends, hu⟩ := hn.expressionShape_eq_done (by omega) hhead hshape
  exact ⟨g, u, hg, hsplit, hends, hu⟩

theorem sound (n : Nat) : Sound n := by
  induction n with
  | zero => exact fun s e r hs => absurd hs (Nat.not_lt_zero _)
  | succ n ih => exact fun s e r hs h => ih.expression_eq_done (by omega) h

/-- A gap, a text that spells what was read, and an end of expressions. -/
theorem expression_eq_done {s r : List Char} {e : Expression} (h : expression s = .done e r) :
    ∃ g u, Gap g ∧ s = g ++ (u ++ r) ∧ endsExpression r = true ∧ e.Spelled Verbatim u r :=
  (sound s.length).expression_eq_done le_rfl h

/-- A macro call is a sign and a name, with the text of its arguments if there are any. -/
theorem invocation_eq_done {s r : List Char} {v : Invocation} (h : invocation s = .done v r) :
    ∃ g u, Gap g ∧ s = g ++ '#' :: (u ++ r) ∧ isIdentifier v.name = true ∧
      ((v.arguments = [] ∧ u = v.name.toList) ∨
        (Expression.callOf v.name v.arguments).Spelled Verbatim u r) := by
  obtain ⟨_, s₁, hsign, hrest⟩ := bind_eq_done.1 h
  obtain ⟨g, hg, rfl⟩ := exists_gap_of_symbol hsign
  obtain ⟨name, s₂, hname, hrest₁⟩ := bind_eq_done.1 hrest
  obtain ⟨hid, rfl, _⟩ := identifier_eq_done hname
  obtain ⟨o, s₃, ho, hpure⟩ := bind_eq_done.1 hrest₁
  obtain ⟨rfl, rfl⟩ := pure_eq_done.1 hpure
  rcases optional_eq_done.1 ho with ⟨arguments, rfl, hlist⟩ | ⟨rfl, rfl, _⟩
  · obtain ⟨t, rfl, ht⟩ := argumentList_sound (sound s₂.length) le_rfl hlist
    exact ⟨g, name.toList ++ '(' :: t, hg, by simp, hid, .inr ⟨name, t, rfl, hid, rfl, ht⟩⟩
  · exact ⟨g, name.toList, hg, rfl, hid, .inl ⟨rfl, rfl⟩⟩

end Reader
end SourceMacros

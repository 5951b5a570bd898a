import SourceMacros.Proofs.Expression.Shapes

/-! An expression is read off every text that spells it, `reads_of_spelled`. What follows is kept but for
a gap at its front, which the reader of a verbatim part may take. -/

namespace SourceMacros

open Text Reader

namespace Reader

/-- The expression is read off the text, and `c` is left up to a gap. -/
def Reads (e : Expression) (s c : List Char) : Prop :=
  ∃ r, expression s = .done e r ∧ r.dropWhile isGap = c.dropWhile isGap

/-- In front of `c` the text is taken verbatim. -/
def Taken (text : String) (u c : List Char) : Prop := Reads (.other text) (u ++ c) c

theorem endsExpression_spaces {h : List Char} (hh : ∀ c ∈ h, isSpace c = true) (s : List Char) :
    endsExpression (h ++ s) = endsExpression s := by
  unfold endsExpression
  rw [List.dropWhile_append_of_pos hh]

theorem label_done_or_miss (s : List Char) :
    (∃ name r, label s = .done name r) ∨ ∃ t, label s = .miss t := by
  have hchar : ∀ c t, (∃ r, char c t = .done () r) ∨ ∃ r, char c t = .miss r := by
    intro c t
    cases t with
    | nil => exact .inr ⟨[], rfl⟩
    | cons d t => by_cases hd : d = c <;> simp [char, hd]
  have hidentifier : (∃ name r, identifier (s.dropWhile isGap) = .done name r) ∨
      ∃ t, identifier (s.dropWhile isGap) = .miss t := by
    cases s.dropWhile isGap with
    | nil => exact .inr ⟨[], rfl⟩
    | cons c t => by_cases hc : startsIdentifier c = true <;> simp [identifier, hc]
  have hspaces : ∀ t, spaces t = .done () (t.dropWhile isSpace) := fun t => rfl
  rcases hidentifier with ⟨name, r, h⟩ | ⟨t, h⟩
  · have hname : Reader.name s = .done name r := h
    rcases hchar ':' (r.dropWhile isSpace) with ⟨r', h'⟩ | ⟨t, h'⟩
    · refine .inl ⟨name, r', ?_⟩
      rw [label, bind_done hname, bind_done (hspaces r), bind_done h']
      rfl
    · refine .inr ⟨t, ?_⟩
      rw [label, bind_done hname, bind_done (hspaces r)]
      exact bind_miss h'
  · exact .inr ⟨t, bind_miss h⟩

/-- Where an expression ends before something else than a colon there is no label. -/
theorem label_miss {s r : List Char} {e : Expression} (h : expression s = .done e r)
    (hr : (r.dropWhile isGap).head? ≠ some ':') : ∃ t, label s = .miss t := by
  rcases label_done_or_miss s with ⟨name, r', hlabel⟩ | hmiss
  · obtain ⟨l, rfl, hl⟩ := label_eq_done hlabel
    obtain ⟨g, k, l', hg, hk, -, hname, heq⟩ := hl [] Gap.nil
    rw [List.append_nil] at heq
    have hends : endsExpression (k ++ ':' :: (l' ++ r')) = true := by
      rw [endsExpression_spaces hk]
      rfl
    have hread := expression_of_identifier hname hg hends
    rw [show g ++ (name.toList ++ (k ++ ':' :: (l' ++ r'))) = l ++ r' by rw [heq]; simp, h] at hread
    obtain ⟨-, rfl⟩ := Outcome.done.inj hread
    exact absurd (by rw [(gap_of_spaces hk).dropWhile_append]; rfl) hr
  · exact hmiss

theorem label_append {name : String} {l : List Char} (hl : LabelSpelled (some name) l)
    (s : List Char) : ∃ k, Gap k ∧ label (l ++ s) = .done name (k ++ s) := by
  obtain ⟨g, h, k, hg, hh, hk, hname, rfl⟩ := hl
  refine ⟨k, hk, ?_⟩
  obtain ⟨c, t, hc, hstart⟩ := exists_cons_of_isIdentifier hname
  have hends : endsExpression (h ++ ':' :: (k ++ s)) = true := by
    rw [endsExpression_spaces hh]
    rfl
  have hword := identifier_append hname (endsWord_of_endsExpression hends)
  rw [String.ofList_toList] at hword
  have hread : Reader.name (g ++ (name.toList ++ (h ++ ':' :: (k ++ s)))) =
      .done name (h ++ ':' :: (k ++ s)) := by
    rw [Reader.name, bind_apply, gap]
    simp only [skip]
    rw [hg.dropWhile_append, hc, List.cons_append, dropWhile_cons_of_neg (isGap_of_startsIdentifier hstart),
      ← List.cons_append, ← hc, hword]
  have hspaces : (h ++ ':' :: (k ++ s)).dropWhile isSpace = ':' :: (k ++ s) := by
    rw [List.dropWhile_append_of_pos hh, dropWhile_cons_of_neg (by decide)]
  simp only [List.append_assoc, List.cons_append]
  rw [label, bind_done hread, bind_apply]
  simp only [spaces, skip, hspaces]
  rw [bind_done (char_cons ':' _)]
  rfl

theorem argument_done {label : Option String} {value : Expression} {l u t : List Char}
    (hl : LabelSpelled label l) (hvalue : Reads value (u ++ t) t)
    (ht : (t.dropWhile isGap).head? ≠ some ':') :
    ∃ r, argument expression (l ++ (u ++ t)) = .done ⟨label, value⟩ r ∧
      r.dropWhile isGap = t.dropWhile isGap := by
  obtain ⟨r, hread, hr⟩ := hvalue
  refine ⟨r, ?_, hr⟩
  cases label with
  | none =>
    have hread' : expression (l ++ (u ++ t)) = .done value r := by rw [expression_gap hl, hread]
    obtain ⟨_, hmiss⟩ := label_miss hread' (by rw [hr]; exact ht)
    rw [argument, bind_done (optional_miss hmiss), bind_done hread']
    rfl
  | some name =>
    obtain ⟨k, hk, hname⟩ := label_append hl (u ++ t)
    rw [argument, bind_done (optional_done hname),
      bind_done (show expression (k ++ (u ++ t)) = .done value r by rw [expression_gap hk, hread])]
    rfl

theorem closing_done {bracket : Char} (hb : isGap bracket = false ∧ bracket ≠ ',')
    {s t c : List Char} (ht : Closing bracket t)
    (hs : s.dropWhile isGap = (t ++ c).dropWhile isGap) : closing bracket s = .done () c := by
  obtain ⟨g, hg, rfl | ⟨k, hk, rfl⟩⟩ := ht
  · rw [List.append_assoc, hg.dropWhile_append, List.singleton_append,
      dropWhile_cons_of_neg hb.1] at hs
    have hmiss : symbol ',' s = .miss (bracket :: c) := by
      rw [symbol_apply, hs]
      exact char_miss (by simpa using hb.2)
    rw [closing, bind_done (optional_miss hmiss)]
    exact symbol_done hs
  · rw [List.append_assoc, hg.dropWhile_append, List.cons_append,
      dropWhile_cons_of_neg (by decide)] at hs
    rw [closing, bind_done (optional_done (symbol_done hs)), List.append_assoc]
    exact symbol_gap hk hb.1 c

theorem separated_cons {α : Type} {p : Reader α} {separator : Reader Unit} {s s₁ s₂ : List Char}
    {a : α} {items : List α} (ha : p s = .done a s₁)
    (hitems : many (do separator; p) s₁ = .done items s₂) :
    separated separator p s = .done (a :: items) s₂ := by
  rw [separated, bind_done ha, bind_done hitems]
  rfl

theorem many_done {α : Type} {p : Reader α} {bracket : Char} {items : List α} {s t c : List Char}
    {spelled : List Char → Prop} (hb : isGap bracket = false ∧ bracket ≠ ',') (hp : Shrinks p)
    (hend : ∀ {s r}, s.dropWhile isGap = bracket :: r → ∃ t, p s = .miss t)
    (hitems : ∀ v, spelled v → ∃ r, separated (symbol ',') p (v ++ c) = .done items r ∧
      closing bracket r = .done () c)
    (ht : Continues bracket items spelled t) (hs : s.dropWhile isGap = (t ++ c).dropWhile isGap) :
    ∃ r, many (do symbol ','; p) s = .done items r ∧ closing bracket r = .done () c := by
  rcases ht with ⟨rfl, hclosing⟩ | ⟨g, v, hg, rfl, hv⟩
  · refine ⟨s, ?_, closing_done hb hclosing hs⟩
    obtain ⟨g, hg, rfl | ⟨k, hk, rfl⟩⟩ := hclosing
    · rw [List.append_assoc, hg.dropWhile_append, List.singleton_append,
        dropWhile_cons_of_neg hb.1] at hs
      have hmiss : symbol ',' s = .miss (bracket :: c) := by
        rw [symbol_apply, hs]
        exact char_miss (by simpa using hb.2)
      exact many_of_miss (bind_miss hmiss)
    · rw [List.append_assoc, hg.dropWhile_append, List.cons_append,
        dropWhile_cons_of_neg (by decide)] at hs
      have hrest : (k ++ [bracket] ++ c).dropWhile isGap = bracket :: c := by
        rw [List.append_assoc, hk.dropWhile_append]
        exact dropWhile_cons_of_neg hb.1
      obtain ⟨_, hmiss⟩ := hend hrest
      exact many_of_miss ((bind_done (symbol_done hs)).trans hmiss)
  · rw [List.append_assoc, hg.dropWhile_append, List.cons_append,
      dropWhile_cons_of_neg (by decide)] at hs
    obtain ⟨r, hseparated, hclose⟩ := hitems v hv
    obtain ⟨a, s₁, ha, hrest⟩ := bind_eq_done.1 hseparated
    obtain ⟨more, s₂, hmore, hpure⟩ := bind_eq_done.1 hrest
    obtain ⟨rfl, rfl⟩ := pure_eq_done.1 hpure
    have hlen := List.length_dropWhile_le isGap s
    have hlen₁ := hp _ _ _ ha
    rw [hs, List.length_cons] at hlen
    exact ⟨s₂, many_of_done ((bind_done (symbol_done hs)).trans ha) (by omega) hmore, hclose⟩

theorem Continues.head? {α : Type} {bracket : Char} (hb : isGap bracket = false) {items : List α}
    {spelled : List Char → Prop} {t : List Char} (h : Continues bracket items spelled t)
    (c : List Char) : ((t ++ c).dropWhile isGap).head? = some ',' ∨
      ((t ++ c).dropWhile isGap).head? = some bracket := by
  rcases h with ⟨-, g, hg, rfl | ⟨k, -, rfl⟩⟩ | ⟨g, s, hg, rfl, -⟩
  · right
    rw [List.append_assoc, hg.dropWhile_append, List.singleton_append, dropWhile_cons_of_neg hb]
    rfl
  · left
    rw [List.append_assoc, hg.dropWhile_append, List.cons_append, dropWhile_cons_of_neg (by decide)]
    rfl
  · left
    rw [List.append_assoc, hg.dropWhile_append, List.cons_append, dropWhile_cons_of_neg (by decide)]
    rfl

theorem literalText_cons {c : Char} (hb : c ≠ '\\') (hc : c ≠ '"' ∧ c ≠ '\n') (s : List Char) :
    literalText (c :: s) = (c :: (literalText s).1, (literalText s).2) := by
  have hne : ∀ d t, c = '\\' → s = d :: t → False := fun _ _ h _ => hb h
  rw [literalText.eq_3 c s hne]
  simp [hc]

theorem literalText_of_isLiteralText {v t : List Char} (hv : isLiteralText v = true)
    (ht : (literalText t).1 = []) : literalText (v ++ t) = (v, (literalText t).2) := by
  fun_induction isLiteralText v with
  | case1 => exact Prod.ext ht rfl
  | case2 c r ih =>
    simp only [Bool.and_eq_true, bne_iff_ne, ne_eq] at hv
    simp [literalText, hv.1, ih hv.2]
  | case3 c r _ ih =>
    simp only [Bool.and_eq_true, bne_iff_ne, ne_eq] at hv
    rw [List.cons_append, literalText_cons hv.1.1.2 ⟨hv.1.1.1, hv.1.2⟩, ih hv.2]

/-- The text in front of a quote or an interpolation is a segment of its own. -/
theorem segments_text {p : Reader Expression} (hp : Shrinks p) {v t r : List Char}
    {parts : List Segment} (hv : isLiteralText v = true) (hne : v ≠ [])
    (ht : (literalText t).1 = []) (h : segments p t = .done parts r) :
    segments p (v ++ t) = .done (.text (String.ofList v) :: parts) r := by
  have hlead := literalText_of_isLiteralText hv ht
  have htext : textSegment v = [.text (String.ofList v)] := by
    cases v with
    | nil => exact absurd rfl hne
    | cons c v => rfl
  rcases segments_eq_done hp h with ⟨rfl, hq⟩ | ⟨value, more, s₁, s₂, s₃, hi, hvalue, hclose, hmore, rfl⟩
  · rw [segments_of_quote p (by rw [hlead]; exact hq), hlead, htext, ht]
    rfl
  · rw [segments_of_interpolation hp (by rw [hlead]; exact hi), bind_done hvalue, bind_done hclose,
      bind_done hmore, hlead, htext, ht]
    rfl

theorem literalText_of_spelled {verbatim : String → List Char → List Char → Prop}
    {segments : List Segment} {t c : List Char} (h : SegmentsSpelled verbatim segments t c)
    (hhead : ∀ s ∈ segments.head?, s.isText = false) : (literalText (t ++ c)).1 = [] := by
  cases segments with
  | nil =>
    obtain rfl : t = ['"'] := h
    simp [literalText]
  | cons part segments =>
    cases part with
    | text value => exact absurd (hhead _ rfl) (by simp [Segment.isText])
    | interpolation value =>
      obtain ⟨g, u, k, t', -, -, rfl, -⟩ := h
      simp [literalText]

theorem Reads.gap {e : Expression} {g s c : List Char} (hg : Gap g) (h : Reads e s c) :
    Reads e (g ++ s) c := by
  obtain ⟨r, hread, hr⟩ := h
  exact ⟨r, by rw [expression_gap hg, hread], hr⟩

theorem reads_of_shape {e : Expression} {s c : List Char} {k : Char} (hs : s.head? = some k)
    (hk : isGap k = false) (h : expressionShape expression s = .done e c) : Reads e s c :=
  ⟨c, expression_of_shape hs hk h, rfl⟩

theorem Reads.symbol {e : Expression} {s g c : List Char} {k : Char} (hk : isGap k = false)
    (hg : Gap g) (h : Reads e s (g ++ k :: c)) :
    ∃ r, expression s = .done e r ∧ Reader.symbol k r = .done () c := by
  obtain ⟨r, hread, hr⟩ := h
  rw [hg.dropWhile_append, dropWhile_cons_of_neg hk] at hr
  exact ⟨r, hread, symbol_done hr⟩

theorem entry_done {key value : Expression} {g u h k v c : List Char} (hg : Gap g) (hh : Gap h)
    (hk : Gap k) (hkey : Reads key (u ++ (h ++ ':' :: (k ++ (v ++ c)))) (h ++ ':' :: (k ++ (v ++ c))))
    (hvalue : Reads value (v ++ c) c) :
    ∃ r, entry expression (g ++ (u ++ (h ++ ':' :: (k ++ (v ++ c))))) = .done ⟨key, value⟩ r ∧
      r.dropWhile isGap = c.dropWhile isGap := by
  obtain ⟨r₁, hread₁, hcolon⟩ := (hkey.gap hg).symbol (by decide) hh
  obtain ⟨r₂, hread₂, hr₂⟩ := hvalue.gap hk
  refine ⟨r₂, ?_, hr₂⟩
  rw [entry, bind_done hread₁, bind_done hcolon, bind_done hread₂]
  rfl

theorem emptyDictionary_miss {s r : List Char} {e : Expression} (h : expression s = .done e r) :
    ∃ t, emptyDictionary ('[' :: s) = .miss t := by
  have hcolon : (s.dropWhile isGap).head? ≠ some ':' := by
    intro hc
    obtain ⟨t, ht⟩ : ∃ t, s.dropWhile isGap = ':' :: t := by
      cases hs : s.dropWhile isGap with
      | nil => simp [hs] at hc
      | cons d t => exact ⟨t, by rw [hs] at hc; rw [Option.some.inj hc]⟩
    obtain ⟨t', hmiss⟩ := expression_miss ht (by decide)
    rw [h] at hmiss
    cases hmiss
  exact ⟨_, (bind_done (char_cons '[' s)).trans (bind_miss (symbol_miss hcolon))⟩

theorem argument_miss {s r : List Char} {k : Char} (hs : s.dropWhile isGap = k :: r)
    (hk : (isDelimiter k || Nesting.isCloser k) = true) :
    ∃ t, argument expression s = .miss t := by
  obtain ⟨t, ht⟩ := expression_miss hs hk
  have hlabel : ∃ t, label s = .miss t := by
    have hstart : startsIdentifier k = false := by
      by_contra h
      simp only [isDelimiter, Nesting.isCloser, Bool.or_eq_true, beq_iff_eq] at hk
      rcases hk with (((rfl | rfl) | rfl) | rfl) | (rfl | rfl) | rfl <;> exact h (by decide)
    have hname : name s = .miss (k :: r) := by
      rw [name, bind_apply]
      simp only [gap, skip, hs]
      simp [identifier, hstart]
    exact ⟨_, bind_miss hname⟩
  obtain ⟨t', ht'⟩ := hlabel
  exact ⟨t, (bind_done (optional_miss ht')).trans (bind_miss ht)⟩

theorem entry_miss {s r : List Char} {k : Char} (hs : s.dropWhile isGap = k :: r)
    (hk : (isDelimiter k || Nesting.isCloser k) = true) : ∃ t, entry expression s = .miss t := by
  obtain ⟨t, ht⟩ := expression_miss hs hk
  exact ⟨t, bind_miss ht⟩

theorem argumentList_nil {t : List Char} (ht : Closing ')' t) (c : List Char) :
    argumentList expression ('(' :: (t ++ c)) = .done [] c := by
  have hfirst : ∃ k r, (t ++ c).dropWhile isGap = k :: r ∧
      (isDelimiter k || Nesting.isCloser k) = true := by
    obtain ⟨g, hg, rfl | ⟨h, -, rfl⟩⟩ := ht
    · exact ⟨')', c, by rw [List.append_assoc, hg.dropWhile_append]; rfl, by decide⟩
    · exact ⟨',', h ++ [')'] ++ c, by rw [List.append_assoc, hg.dropWhile_append]; rfl, by decide⟩
  obtain ⟨k, r, hs, hk⟩ := hfirst
  obtain ⟨t', ht'⟩ := argument_miss hs hk
  obtain ⟨o, s, ho, hclose⟩ := bind_eq_done.1 (closing_done (by decide) ht (c := c) rfl)
  have hmiss : separated (symbol ',') (argument expression) (t ++ c) = .miss t' := bind_miss ht'
  rw [argumentList, bind_done (char_cons '(' _), bind_done (optional_miss hmiss), bind_done ho,
    bind_done hclose]
  rfl

theorem argumentList_cons {s c r : List Char} {arguments : List Argument}
    (h : separated (symbol ',') (argument expression) s = .done arguments r)
    (hclose : closing ')' r = .done () c) :
    argumentList expression ('(' :: s) = .done arguments c := by
  obtain ⟨o, s', ho, hparen⟩ := bind_eq_done.1 hclose
  rw [argumentList, bind_done (char_cons '(' _), bind_done (optional_done h), bind_done ho,
    bind_done hparen]
  rfl

theorem call_of_list {name : String} (hname : isIdentifier name = true) {arguments : List Argument}
    {t c : List Char} (h : (arguments = [] ∧ Closing ')' t) ∨
      ∃ r, separated (symbol ',') (argument expression) (t ++ c) = .done arguments r ∧
        closing ')' r = .done () c) :
    identifier (name.toList ++ '(' :: (t ++ c)) = .done name ('(' :: (t ++ c)) ∧
      argumentList expression ('(' :: (t ++ c)) = .done arguments c := by
  have hword := identifier_append hname (r := '(' :: (t ++ c)) (endsWord_cons (by decide))
  rw [String.ofList_toList] at hword
  refine ⟨hword, ?_⟩
  rcases h with ⟨rfl, ht⟩ | ⟨r, hread, hclose⟩
  · exact argumentList_nil ht c
  · exact argumentList_cons hread hclose

mutual

/-- An expression is read off every text that spells it. -/
theorem reads_of_spelled : (e : Expression) → {u c : List Char} → e.Spelled Taken u c →
    endsExpression c = true → Reads e (u ++ c) c
  | .integer text, u, c, ⟨hu, htext⟩, hc => by
    subst hu
    obtain ⟨k, t, hk, hgap⟩ := exists_cons_of_isIntegerText htext
    have hread := integer_append htext (endsWord_of_endsExpression hc)
    rw [String.ofList_toList] at hread
    exact reads_of_shape (by rw [hk]; rfl) hgap (expressionShape_of_integer hread hc)
  | .string segments, u, c, ⟨t, hu, ht⟩, hc => by
    subst hu
    have hread : stringLiteral expression ('"' :: (t ++ c)) = .done (.string segments) c := by
      rw [stringLiteral, bind_done (char_cons '"' _), bind_done (segments_of_spelled segments ht)]
      rfl
    exact reads_of_shape rfl (by decide) (expressionShape_of_stringLiteral hread hc)
  | .dictionary entries, u, c, hu, hc => by
    rcases hu with ⟨rfl, g, h, hg, hh, rfl⟩ | ⟨t, rfl, ht⟩
    · have hread : emptyDictionary ('[' :: (g ++ ':' :: (h ++ ']' :: c))) =
          .done (.dictionary []) c := by
        rw [emptyDictionary, bind_done (char_cons '[' _), bind_done (symbol_gap hg (by decide) _),
          bind_done (symbol_gap hh (by decide) c)]
        rfl
      have hshape := expressionShape_of_dictionary (orElse_done hread) hc
      exact reads_of_shape rfl (by decide) (by simpa using hshape)
    · obtain ⟨r, hread, hclose⟩ := entries_of_spelled entries ht
      obtain ⟨o, s, ho, hbracket⟩ := bind_eq_done.1 hclose
      obtain ⟨_, _, hentry, -⟩ := bind_eq_done.1 hread
      obtain ⟨_, _, hkey, -⟩ := bind_eq_done.1 hentry
      obtain ⟨_, hmiss⟩ := emptyDictionary_miss hkey
      have hfilled : filledDictionary expression ('[' :: (t ++ c)) = .done (.dictionary entries) c := by
        rw [filledDictionary, bind_done (char_cons '[' _), bind_done hread, bind_done ho,
          bind_done hbracket]
        rfl
      exact reads_of_shape rfl (by decide)
        (expressionShape_of_dictionary ((orElse_miss hmiss).trans hfilled) hc)
  | .identifier name, u, c, ⟨hu, hname⟩, hc => by
    subst hu
    have hread := expression_of_identifier hname Gap.nil hc
    rw [List.nil_append] at hread
    exact ⟨c, hread, rfl⟩
  | .call callee arguments, u, c, ⟨name, t, hcallee, hname, hu, hlist⟩, hc => by
    subst hcallee hu
    obtain ⟨hword, hread⟩ := call_of_list hname (hlist.imp_right (arguments_of_spelled arguments))
    obtain ⟨k, t', hk, hstart⟩ := exists_cons_of_isIdentifier hname
    have hcall : callOrIdentifier expression (name.toList ++ '(' :: (t ++ c)) =
        .done (.call (.identifier name) arguments) c := by
      rw [callOrIdentifier, bind_done hword, bind_done (optional_done hread)]
      rfl
    rw [List.append_assoc, List.cons_append]
    refine reads_of_shape (k := k) (by rw [hk]; rfl) (isGap_of_startsIdentifier hstart) ?_
    rw [hk] at hcall ⊢
    exact expressionShape_of_word hstart hcall hc
  | .other text, u, c, hu, _ => hu

theorem segments_of_spelled : (segments : List Segment) → {t c : List Char} →
    SegmentsSpelled Taken segments t c → Reader.segments expression (t ++ c) = .done segments c
  | [], t, c, ht => by
    obtain rfl : t = ['"'] := ht
    exact segments_of_quote expression (s := '"' :: c) (by simp [literalText])
  | .text value :: segments, t, c, ⟨⟨hne, hvalue, hhead⟩, t', ht, ht'⟩ => by
    subst ht
    have hread := segments_of_spelled segments ht'
    have hfirst := literalText_of_spelled ht' hhead
    rw [List.append_assoc, segments_text shrinks_expression hvalue hne hfirst hread,
      String.ofList_toList]
  | .interpolation value :: segments, t, c, ⟨g, u, h, t', hg, hh, ht, hvalue, hends, ht'⟩ => by
    subst ht
    have hread := (reads_of_spelled value hvalue hends).gap hg
    obtain ⟨r, hread, hclose⟩ := hread.symbol (by decide) hh
    have hmore := segments_of_spelled segments ht'
    have hlead : literalText ('\\' :: '(' :: (g ++ (u ++ (h ++ ')' :: (t' ++ c))))) =
      ([], '\\' :: '(' :: (g ++ (u ++ (h ++ ')' :: (t' ++ c))))) := by simp [literalText]
    simp only [List.cons_append, List.append_assoc]
    rw [segments_of_interpolation shrinks_expression (by rw [hlead]), bind_done hread,
      bind_done hclose, bind_done hmore, hlead]
    rfl

theorem entries_of_spelled : (entries : List Entry) → {t c : List Char} →
    EntriesSpelled Taken entries t c →
    ∃ r, separated (symbol ',') (entry expression) (t ++ c) = .done entries r ∧
      closing ']' r = .done () c
  | ⟨key, value⟩ :: entries, t, c, ⟨g, u, h, k, v, t', hg, hh, hk, ht, hkey, hends, hvalue, hends', ht'⟩ => by
    subst ht
    obtain ⟨r, hread, hr⟩ := entry_done hg hh hk (reads_of_spelled key hkey hends)
      (reads_of_spelled value hvalue hends')
    obtain ⟨r', hmany, hclose⟩ := many_done (by decide) shrinks_entry
      (fun hs => entry_miss hs (by decide)) (fun v hv => entries_of_spelled entries hv) ht' hr
    refine ⟨r', ?_, hclose⟩
    simp only [List.append_assoc, List.cons_append]
    exact separated_cons hread hmany

theorem arguments_of_spelled : (arguments : List Argument) → {t c : List Char} →
    ArgumentsSpelled Taken arguments t c →
    ∃ r, separated (symbol ',') (argument expression) (t ++ c) = .done arguments r ∧
      closing ')' r = .done () c
  | ⟨label, value⟩ :: arguments, t, c, ⟨l, u, t', hl, ht, hvalue, hends, ht'⟩ => by
    subst ht
    have hnext : ((t' ++ c).dropWhile isGap).head? ≠ some ':' := by
      have hfollow : Continues ')' arguments (fun t => ArgumentsSpelled Taken arguments t c) t' := ht'
      rcases Continues.head? (by decide) hfollow c with h | h <;> rw [h] <;> decide
    obtain ⟨r, hread, hr⟩ := argument_done hl (reads_of_spelled value hvalue hends) hnext
    obtain ⟨r', hmany, hclose⟩ := many_done (by decide) shrinks_argument
      (fun hs => argument_miss hs (by decide)) (fun v hv => arguments_of_spelled arguments hv) ht' hr
    refine ⟨r', ?_, hclose⟩
    simp only [List.append_assoc]
    exact separated_cons hread hmany

end

end Reader
end SourceMacros

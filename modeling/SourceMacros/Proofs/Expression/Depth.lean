import SourceMacros.Proofs.Expression.Bracketed
import SourceMacros.Proofs.Nesting.Scan

/-! How deep an expression nests. Every text that spells it spans as many levels,
`Expression.Spelled.spans`, so the scan ahead of reading counts what is read. -/

namespace SourceMacros

open Text Reader Nesting

section Depth

/- How deep a verbatim text nests. -/
variable (other : String → Nat)

mutual

/-- Lists and literals are one level each, and an interpolation is one more. -/
def Expression.depth : Expression → Nat
  | .integer _ => 0
  | .string segments => segmentsDepth segments + 1
  | .dictionary entries => entriesDepth entries + 1
  | .identifier _ => 0
  | .call _ arguments => argumentsDepth arguments + 1
  | .other text => other text

def segmentsDepth : List Segment → Nat
  | [] => 0
  | .text _ :: segments => segmentsDepth segments
  | .interpolation value :: segments => max (value.depth + 1) (segmentsDepth segments)

def entriesDepth : List Entry → Nat
  | [] => 0
  | ⟨key, value⟩ :: entries => max (max key.depth value.depth) (entriesDepth entries)

def argumentsDepth : List Argument → Nat
  | [] => 0
  | ⟨_, value⟩ :: arguments => max value.depth (argumentsDepth arguments)

end

end Depth

theorem isQuiet_of_flat {test : Char → Bool} (ht : Flat test) (hq : test '"' = false) {c : Char}
    (hc : test c = true) : isQuiet c = true := by
  have hne : c ≠ '"' := by
    rintro rfl
    rw [hq] at hc
    cases hc
  simp [isQuiet, hne, ht c hc]

theorem isQuiet_of_isBlank {c : Char} (hc : isBlank c = true) : isQuiet c = true := by
  by_contra hq
  simp only [isQuiet, isOpener, isCloser, Bool.not_eq_true, Bool.and_eq_false_iff, bne_eq_false_iff_eq,
    Bool.not_eq_false', Bool.or_eq_true, beq_iff_eq] at hq
  rcases hq with (rfl | (rfl | rfl) | rfl) | (rfl | rfl) | rfl <;> exact absurd hc (by decide)

theorem spans_gap {g : List Char} (hg : Gap g) : Spans false g 0 :=
  Spans.quiet fun c hc => isQuiet_of_flat flat_isGap (by decide) (hg c hc)

theorem isQuiet_of_mem_identifier {name : String} (h : isIdentifier name = true) :
    ∀ c ∈ name.toList, isQuiet c = true := fun _ hc =>
  isQuiet_of_flat flat_continuesIdentifier (by decide) (continuesIdentifier_of_mem h hc)

theorem spans_identifier {name : String} (h : isIdentifier name = true) :
    Spans false name.toList 0 :=
  Spans.quiet (isQuiet_of_mem_identifier h)

theorem spans_integer {s : List Char} (h : isIntegerText s = true) : Spans false s 0 := by
  refine Spans.quiet fun k hk => ?_
  rcases eq_or_continues_of_mem h hk with rfl | hk
  · decide
  · exact isQuiet_of_flat flat_continuesIdentifier (by decide) hk

theorem spans_literalText {s : List Char} (h : isLiteralText s = true) : Spans true s 0 := by
  fun_induction isLiteralText s with
  | case1 => exact Spans.nil
  | case2 c r ih =>
    simp only [Bool.and_eq_true, bne_iff_ne, ne_eq] at h
    exact (Spans.text_escape h.1).append (ih h.2)
  | case3 c r _ ih =>
    simp only [Bool.and_eq_true, bne_iff_ne, ne_eq] at h
    exact (Spans.text_single h.1.1.1 h.1.1.2).append (ih h.2)

theorem spans_closing {bracket : Char} {t : List Char} (h : Closing bracket t) :
    ∃ s, t = s ++ [bracket] ∧ Spans false s 0 := by
  obtain ⟨g, hg, rfl | ⟨k, hk, rfl⟩⟩ := h
  · exact ⟨g, rfl, spans_gap hg⟩
  · have hcomma : Spans false [','] 0 := Spans.quiet_single (by decide)
    exact ⟨g ++ ',' :: k, by simp, (spans_gap hg).append (hcomma.append (spans_gap hk))⟩

theorem spans_continues {α : Type} {bracket : Char} {items : List α} {spelled : List Char → Prop}
    {t : List Char} {d : Nat} (h : Continues bracket items spelled t) (hnil : items = [] → d = 0)
    (hspelled : ∀ t, spelled t → ∃ s, t = s ++ [bracket] ∧ Spans false s d) :
    ∃ s, t = s ++ [bracket] ∧ Spans false s d := by
  rcases h with ⟨hitems, ht⟩ | ⟨g, v, hg, rfl, hv⟩
  · rw [hnil hitems]
    exact spans_closing ht
  · obtain ⟨s, rfl, hs⟩ := hspelled v hv
    have hcomma : Spans false [','] 0 := Spans.quiet_single (by decide)
    refine ⟨g ++ ',' :: s, by simp, ?_⟩
    simpa using (spans_gap hg).append (hcomma.append hs)

theorem spans_label {label : Option String} {l : List Char} (h : LabelSpelled label l) :
    Spans false l 0 := by
  cases label with
  | none => exact spans_gap h
  | some name =>
    obtain ⟨g, k, k', hg, hk, hk', hname, rfl⟩ := h
    have hcolon : Spans false [':'] 0 := Spans.quiet_single (by decide)
    exact (spans_gap hg).append ((spans_identifier hname).append
      ((spans_gap (gap_of_spaces hk)).append (hcolon.append (spans_gap hk'))))

/-- The largest number of brackets open at once, with `n` open before the text. -/
def bracketDepth : Nat → List Char → Nat
  | n, [] => n
  | n, c :: s =>
    max n (bracketDepth (if isOpener c then n + 1 else if isCloser c then n - 1 else n) s)

theorem run_of_isBracketed {stop : Char → Bool} {n : Nat} {s : List Char} (h : isBracketed stop n s = true) {F : List Frame}
    (hF : F.head? ≠ some .text) :
    (Scan.of (List.replicate n .group ++ F)).run s = Scan.of F ∧
      (Scan.of (List.replicate n .group ++ F)).peak s = F.length + bracketDepth n s := by
  induction s generalizing n with
  | nil =>
    obtain rfl : n = 0 := by simpa [isBracketed] using h
    simp [Scan.peak, bracketDepth]
  | cons c s ih =>
    have hhead : (List.replicate n Frame.group ++ F).head? ≠ some .text := by
      cases n with
      | zero => exact hF
      | succ n => simp [List.replicate_succ]
    have hq := ne_quote_of_isBracketed h
    rw [Scan.run_cons, Scan.peak, Scan.next_of fun hh => absurd hh hhead]
    by_cases ho : isOpener c = true
    · rw [after_eq_of_opener hhead ho, ← List.cons_append, ← List.replicate_succ]
      obtain ⟨hrun, hpeak⟩ := ih (isBracketed_opener ho h)
      refine ⟨hrun, ?_⟩
      simp only [hpeak, bracketDepth, ho, if_true, List.length_append, List.length_replicate]
      omega
    · by_cases hc : isCloser c = true
      · obtain ⟨hn, hrest⟩ := isBracketed_closer hc h
        obtain ⟨m, rfl⟩ := Nat.exists_eq_succ_of_ne_zero hn
        rw [after_eq_of_closer hhead hc]
        obtain ⟨hrun, hpeak⟩ := ih hrest
        refine ⟨hrun, ?_⟩
        simp only [Nat.succ_eq_add_one, Nat.add_sub_cancel] at hpeak
        simp only [List.replicate_succ, List.cons_append, List.tail_cons, hpeak, bracketDepth, ho, hc,
          Bool.false_eq_true, if_false, if_true, List.length_cons, List.length_append,
          List.length_replicate, Nat.add_sub_cancel, Nat.succ_eq_add_one]
        omega
      · rw [after_eq_of_quiet hhead (by simp [isQuiet, hq, ho, hc])]
        obtain ⟨hrun, hpeak⟩ := ih (isBracketed_other (by simpa using ho) (by simpa using hc) h).2
        refine ⟨hrun, ?_⟩
        simp only [hpeak, bracketDepth, ho, hc, Bool.false_eq_true, if_false, List.length_append,
          List.length_replicate]
        omega

theorem spans_of_isBracketed {stop : Char → Bool} {s : List Char} (h : isBracketed stop 0 s = true) :
    Spans false s (bracketDepth 0 s) :=
  ⟨fun _ hF => (run_of_isBracketed h (by simpa using hF)).1,
    fun _ hF => (run_of_isBracketed h (by simpa using hF)).2⟩

section Spans

variable {other : String → Nat} {verbatim : String → List Char → List Char → Prop}

mutual

/-- Every text that spells an expression spans as many levels as the expression nests. -/
theorem Expression.Spelled.spans
    (hv : ∀ text u c, verbatim text u c → Spans false u (other text)) : (e : Expression) →
    {u c : List Char} → e.Spelled verbatim u c → Spans false u (e.depth other)
  | .integer _, u, c, ⟨_, hu⟩ => spans_integer hu
  | .string segments, u, c, ⟨t, hu, ht⟩ => by
    obtain ⟨s, rfl, hs⟩ := SegmentsSpelled.spans hv segments ht
    exact hu ▸ hs.quoted
  | .dictionary entries, u, c, hu => by
    rcases hu with ⟨rfl, g, h, hg, hh, rfl⟩ | ⟨t, rfl, ht⟩
    · have hcolon : Spans false [':'] 0 := Spans.quiet_single (by decide)
      have hinside := (spans_gap hg).append (hcolon.append (spans_gap hh))
      simpa [Expression.depth, entriesDepth] using
        hinside.bracket (o := '[') (k := ']') (by decide) (by decide)
    · obtain ⟨s, rfl, hs⟩ := EntriesSpelled.spans hv entries ht
      exact hs.bracket (by decide) (by decide)
  | .identifier _, u, c, ⟨hu, hname⟩ => hu ▸ spans_identifier hname
  | .call callee arguments, u, c, ⟨name, t, _, hname, hu, hlist⟩ => by
    obtain ⟨s, rfl, hs⟩ : ∃ s, t = s ++ [')'] ∧ Spans false s (argumentsDepth other arguments) := by
      rcases hlist with ⟨rfl, ht⟩ | ht
      · exact spans_closing ht
      · exact ArgumentsSpelled.spans hv arguments ht
    rw [hu]
    have hlist' := hs.bracket (o := '(') (k := ')') (by decide) (by decide)
    simpa [Expression.depth] using (spans_identifier hname).append hlist'
  | .other text, u, c, hu => hv text u c hu

theorem SegmentsSpelled.spans
    (hv : ∀ text u c, verbatim text u c → Spans false u (other text)) : (segments : List Segment) →
    {t c : List Char} → SegmentsSpelled verbatim segments t c →
    ∃ s, t = s ++ ['"'] ∧ Spans true s (segmentsDepth other segments)
  | [], t, c, ht => ⟨[], ht, Spans.nil⟩
  | .text value :: segments, t, c, ⟨⟨_, hvalue, _⟩, t', ht, ht'⟩ => by
    obtain ⟨s, rfl, hs⟩ := SegmentsSpelled.spans hv segments ht'
    refine ⟨value.toList ++ s, by simp [ht], ?_⟩
    simpa [segmentsDepth] using (spans_literalText hvalue).append hs
  | .interpolation value :: segments, t, c, ⟨g, u, h, t', hg, hh, ht, hvalue, _, ht'⟩ => by
    obtain ⟨s, rfl, hs⟩ := SegmentsSpelled.spans hv segments ht'
    have hinside := (spans_gap hg).append ((Expression.Spelled.spans hv value hvalue).append
      (spans_gap hh))
    refine ⟨'\\' :: '(' :: (g ++ (u ++ h) ++ [')']) ++ s, by simp [ht], ?_⟩
    simpa [segmentsDepth] using hinside.interpolation.append hs

theorem EntriesSpelled.spans
    (hv : ∀ text u c, verbatim text u c → Spans false u (other text)) : (entries : List Entry) →
    {t c : List Char} → EntriesSpelled verbatim entries t c →
    ∃ s, t = s ++ [']'] ∧ Spans false s (entriesDepth other entries)
  | ⟨key, value⟩ :: entries, t, c, ⟨g, u, h, k, v, t', hg, hh, hk, ht, hkey, _, hvalue, _, ht'⟩ => by
    obtain ⟨s, rfl, hs⟩ := spans_continues ht'
      (by rintro rfl; rfl) fun t ht => EntriesSpelled.spans hv entries ht
    have hcolon : Spans false [':'] 0 := Spans.quiet_single (by decide)
    refine ⟨g ++ (u ++ (h ++ ':' :: (k ++ (v ++ s)))), by simp [ht], ?_⟩
    have hinside := (spans_gap hg).append ((Expression.Spelled.spans hv key hkey).append
      ((spans_gap hh).append (hcolon.append ((spans_gap hk).append
        ((Expression.Spelled.spans hv value hvalue).append hs)))))
    simpa [entriesDepth, max_assoc] using hinside

theorem ArgumentsSpelled.spans
    (hv : ∀ text u c, verbatim text u c → Spans false u (other text)) :
    (arguments : List Argument) → {t c : List Char} → ArgumentsSpelled verbatim arguments t c →
    ∃ s, t = s ++ [')'] ∧ Spans false s (argumentsDepth other arguments)
  | ⟨label, value⟩ :: arguments, t, c, ⟨l, u, t', hl, ht, hvalue, _, ht'⟩ => by
    obtain ⟨s, rfl, hs⟩ := spans_continues ht'
      (by rintro rfl; rfl) fun t ht => ArgumentsSpelled.spans hv arguments ht
    refine ⟨l ++ (u ++ s), by simp [ht], ?_⟩
    simpa [argumentsDepth] using
      (spans_label hl).append ((Expression.Spelled.spans hv value hvalue).append hs)

end

end Spans

end SourceMacros

import SourceMacros.Proofs.Expression.Shapes

/-! The content of a text: what it holds but for blanks, commas and semicolons. A text that spells an
expression has the content of the text that is written for it, `Expression.Spelled.content_eq`. -/

namespace SourceMacros

open Text Reader

namespace Text

/-- Neither a blank nor a sign between two items. -/
def isContent (c : Char) : Bool := !(isBlank c || c == ',' || c == ';')

def content (s : List Char) : List Char := s.filter isContent

@[simp] theorem content_nil : content [] = [] := rfl

@[simp] theorem content_append (s t : List Char) : content (s ++ t) = content s ++ content t :=
  List.filter_append s t

theorem content_cons {c : Char} (hc : isContent c = true) (s : List Char) :
    content (c :: s) = c :: content s := List.filter_cons_of_pos hc

theorem content_cons_of_not {c : Char} (hc : isContent c = false) (s : List Char) :
    content (c :: s) = content s := List.filter_cons_of_neg (by simp [hc])

theorem content_eq_nil {s : List Char} (h : ∀ c ∈ s, isContent c = false) : content s = [] :=
  List.filter_eq_nil_iff.2 fun c hc => by simp [h c hc]

theorem content_blank {b : List Char} (hb : Blank b) : content b = [] :=
  content_eq_nil fun c hc => by simp [isContent, hb c hc]

theorem content_gap {g : List Char} (hg : Gap g) : content g = [] :=
  content_blank fun c hc => isBlank_of_isGap (hg c hc)

end Text

theorem content_othersWritten (texts : List (List Char)) (c : List Char) :
    content (othersWritten texts c) = content (texts.flatten ++ c) := by
  induction texts with
  | nil => rfl
  | cons text texts ih =>
    simp only [othersWritten, List.flatMap_cons, List.cons_append, List.append_assoc] at ih ⊢
    rw [content_cons_of_not (by decide), content_cons_of_not (by decide), content_append, ih]
    simp

theorem content_commaSeparated (texts : List (List Char)) :
    content (commaSeparated texts) = content texts.flatten := by
  cases texts with
  | nil => rfl
  | cons text texts =>
    have h := commaSeparated_cons_append text texts []
    rw [List.append_nil] at h
    simp [h, content_othersWritten]

theorem content_closing {bracket : Char} {t : List Char} (h : Closing bracket t) :
    content t = content [bracket] := by
  obtain ⟨g, hg, rfl | ⟨k, hk, rfl⟩⟩ := h
  · rw [content_append, content_gap hg, List.nil_append]
  · rw [content_append, content_gap hg, content_cons_of_not (by decide), content_append, content_gap hk,
      List.nil_append, List.nil_append]

theorem content_continues {α : Type} {bracket : Char} {items : List α} {spelled : List Char → Prop}
    {texts : List (List Char)} {t : List Char} (h : Continues bracket items spelled t)
    (hnil : items = [] → texts = [])
    (hspelled : ∀ t, spelled t → content t = content (texts.flatten ++ [bracket])) :
    content t = content (texts.flatten ++ [bracket]) := by
  rcases h with ⟨hitems, ht⟩ | ⟨g, v, hg, rfl, hv⟩
  · rw [hnil hitems]
    exact content_closing ht
  · rw [content_append, content_gap hg, content_cons_of_not (by decide), List.nil_append, hspelled v hv]

theorem content_label {label : Option String} {l : List Char} (h : LabelSpelled label l) :
    content l = content (labelWritten label) := by
  cases label with
  | none => exact content_gap h
  | some name =>
    obtain ⟨g, k, k', hg, hk, hk', -, rfl⟩ := h
    simp only [labelWritten, content_append, content_gap hg, content_gap (gap_of_spaces hk),
      content_cons (c := ':') (by decide), content_gap hk', List.nil_append]
    rfl

section Spelled

variable {verbatim : String → List Char → List Char → Prop}

mutual

/-- What is taken has the content of what is written, if this is so for the verbatim texts. -/
theorem Expression.Spelled.content_eq
    (hv : ∀ text u c, verbatim text u c → content u = content text.toList) : (e : Expression) →
    {u c : List Char} → e.Spelled verbatim u c → content u = content e.written
  | .integer _, u, c, ⟨hu, _⟩ => hu ▸ rfl
  | .string segments, u, c, ⟨t, hu, ht⟩ => by
    have hsegments := SegmentsSpelled.content_eq hv segments ht
    rw [hu, Expression.written, content_cons (by decide), content_cons (by decide), hsegments]
  | .dictionary entries, u, c, hu => by
    rcases hu with ⟨rfl, g, h, hg, hh, rfl⟩ | ⟨t, rfl, ht⟩
    · simp [Expression.written, content_cons (c := '[') (by decide), content_gap hg,
        content_cons (c := ':') (by decide), content_gap hh]
    · have hne : entries ≠ [] := by
        rintro rfl
        exact ht
      rw [Expression.written_dictionary hne, content_cons (by decide), content_cons (by decide),
        EntriesSpelled.content_eq hv entries ht, content_append, content_append, content_commaSeparated]
  | .identifier _, u, c, ⟨hu, _⟩ => hu ▸ rfl
  | .call callee arguments, u, c, ⟨name, t, hcallee, _, hu, hlist⟩ => by
    have hinside : content t =
        content (commaSeparated (argumentsWritten arguments) ++ [')']) := by
      rcases hlist with ⟨rfl, ht⟩ | ht
      · exact content_closing ht
      · rw [ArgumentsSpelled.content_eq hv arguments ht, content_append, content_append,
          content_commaSeparated]
    rw [hu, hcallee, Expression.written, Expression.written, content_append, content_append,
      content_cons (by decide), content_cons (by decide), hinside]
  | .other text, u, c, hu => hv text u c hu

theorem SegmentsSpelled.content_eq
    (hv : ∀ text u c, verbatim text u c → content u = content text.toList) :
    (segments : List Segment) → {t c : List Char} → SegmentsSpelled verbatim segments t c →
    content t = content (segmentsWritten segments ++ ['"'])
  | [], t, c, ht => congrArg content ht
  | .text value :: segments, t, c, ⟨_, t', ht, ht'⟩ => by
    rw [ht, segmentsWritten, List.append_assoc, content_append, content_append,
      SegmentsSpelled.content_eq hv segments ht', ← content_append]
  | .interpolation value :: segments, t, c, ⟨g, u, h, t', hg, hh, ht, hvalue, _, ht'⟩ => by
    have hrest := SegmentsSpelled.content_eq hv segments ht'
    have hinside := Expression.Spelled.content_eq hv value hvalue
    simp only [ht, segmentsWritten, content_append, List.cons_append, List.append_assoc, content_gap hg,
      content_gap hh, hinside, hrest, content_cons (c := '\\') (by decide),
      content_cons (c := '(') (by decide), content_cons (c := ')') (by decide), List.nil_append]

theorem EntriesSpelled.content_eq
    (hv : ∀ text u c, verbatim text u c → content u = content text.toList) :
    (entries : List Entry) → {t c : List Char} → EntriesSpelled verbatim entries t c →
    content t = content ((entriesWritten entries).flatten ++ [']'])
  | ⟨key, value⟩ :: entries, t, c, ⟨g, u, h, k, v, t', hg, hh, hk, ht, hkey, _, hvalue, _, ht'⟩ => by
    have hrest := content_continues ht' (by rintro rfl; rfl)
      fun t hs => EntriesSpelled.content_eq hv entries hs
    have hleft := Expression.Spelled.content_eq hv key hkey
    have hright := Expression.Spelled.content_eq hv value hvalue
    simp only [ht, entriesWritten, List.flatten_cons, content_append, List.cons_append,
      List.append_assoc, content_gap hg, content_gap hh, content_gap hk, hleft, hright, hrest,
      content_cons (c := ':') (by decide), content_cons_of_not (c := ' ') (by decide), List.nil_append]

theorem ArgumentsSpelled.content_eq
    (hv : ∀ text u c, verbatim text u c → content u = content text.toList) :
    (arguments : List Argument) → {t c : List Char} → ArgumentsSpelled verbatim arguments t c →
    content t = content ((argumentsWritten arguments).flatten ++ [')'])
  | ⟨label, value⟩ :: arguments, t, c, ⟨l, u, t', hl, ht, hvalue, _, ht'⟩ => by
    have hrest := content_continues ht' (by rintro rfl; rfl)
      fun t hs => ArgumentsSpelled.content_eq hv arguments hs
    have hinside := Expression.Spelled.content_eq hv value hvalue
    simp only [ht, argumentsWritten_cons, List.flatten_cons, content_append, List.append_assoc,
      content_label hl, hinside, hrest]

end

end Spelled

/-- A verbatim text is what was taken but for the blanks around it. -/
theorem content_verbatim {text : String} {u c : List Char} (h : Verbatim text u c) :
    content u = content text.toList := by
  obtain ⟨-, -, -, b, b', hb, hb', rfl⟩ := Verbatim.split h
  rw [content_append, content_append, content_blank hb, content_blank hb', List.nil_append,
    List.append_nil]

end SourceMacros

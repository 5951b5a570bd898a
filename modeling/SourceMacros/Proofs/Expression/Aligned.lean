import SourceMacros.Proofs.Expression.Parted

/-! Where the text that is written for an expression is read as the same expression, its parts are read
where they are written. So no known shape takes a verbatim text there, `Expression.Spelled.aligned`. -/

namespace SourceMacros

open Text Reader

/-- No known shape takes the text, with what follows it. -/
def Missed (p : String × List Char) : Prop :=
  ∃ place, knownShape expression (p.1.toList ++ p.2) = .miss place

theorem isGap_of_isIdentifier {name : String} (h : isIdentifier name = true) :
    ∃ k t, name.toList = k :: t ∧ isGap k = false := by
  obtain ⟨k, t, hname, hk⟩ := exists_cons_of_isIdentifier h
  exact ⟨k, t, hname, isGap_of_startsIdentifier hk⟩

theorem Kept.head {text : String} (h : Kept text) :
    ∃ k t, text.toList = k :: t ∧ isGap k = false := by
  cases ht : text.toList with
  | nil => exact absurd ht h.nonempty
  | cons k t => exact ⟨k, t, rfl, isGap_of_not_isBlank (h.trimmed.head k (by simp [ht]))⟩

theorem Expression.Shaped.head {e : Expression} (h : e.Shaped Kept) :
    ∃ k t, e.written = k :: t ∧ isGap k = false := by
  cases e with
  | integer text => exact exists_cons_of_isIntegerText h
  | string segments => exact ⟨'"', _, rfl, by decide⟩
  | dictionary entries =>
    cases entries with
    | nil => exact ⟨'[', _, rfl, by decide⟩
    | cons entry entries => exact ⟨'[', _, rfl, by decide⟩
  | identifier name => exact isGap_of_isIdentifier h
  | call callee arguments =>
    obtain ⟨⟨name, rfl, hname⟩, -⟩ := h
    obtain ⟨k, t, hk, hgap⟩ := isGap_of_isIdentifier hname
    exact ⟨k, _, by rw [Expression.written, Expression.written, hk]; rfl, hgap⟩
  | other text => exact Kept.head h

theorem Expression.Spelled.head {e : Expression} {u c : List Char} (h : e.Spelled Verbatim u c) :
    ∃ k t, u = k :: t ∧ isGap k = false := by
  cases e with
  | integer text => exact exists_cons_of_isIntegerText h.2
  | string segments =>
    obtain ⟨t, rfl, -⟩ := h
    exact ⟨'"', t, rfl, by decide⟩
  | dictionary entries =>
    rcases h with ⟨-, g, k, -, -, rfl⟩ | ⟨t, rfl, -⟩
    · exact ⟨'[', _, rfl, by decide⟩
    · exact ⟨'[', t, rfl, by decide⟩
  | identifier name =>
    obtain ⟨rfl, hname⟩ := h
    exact isGap_of_isIdentifier hname
  | call callee arguments =>
    obtain ⟨name, t, -, hname, rfl, -⟩ := h
    obtain ⟨k, s, hk, hgap⟩ := isGap_of_isIdentifier hname
    exact ⟨k, _, by rw [hk]; rfl, hgap⟩
  | other text =>
    obtain ⟨hne, -, -, b, b', -, -, hu⟩ := Verbatim.split h
    cases hs : u with
    | nil =>
      rw [hs] at hu
      simp [hne] at hu
    | cons k t => exact ⟨k, t, rfl, Verbatim.head h k (by rw [hs]; rfl)⟩

/-- What is written for an expression, after a gap, is what was taken, after the same gap. -/
theorem Expression.Spelled.front {e : Expression} {g g' u c d : List Char} (he : e.Shaped Kept)
    (h : e.Spelled Verbatim u c) (hg : Gap g) (hg' : Gap g')
    (heq : g ++ (e.written ++ d) = g' ++ (u ++ c)) : e.written ++ d = u ++ c := by
  obtain ⟨k, t, hwritten, hk⟩ := Expression.Shaped.head he
  obtain ⟨k', t', hu, hk'⟩ := Expression.Spelled.head h
  rw [hwritten, hu, List.cons_append, List.cons_append] at heq ⊢
  obtain ⟨-, rfl, hrest⟩ := span_cancel hg hg' hk hk' heq
  rw [hrest]

theorem aligned_of_closing {bracket : Char} {t c d : List Char}
    (hb : isGap bracket = false ∧ bracket ≠ ',') (h : Closing bracket t)
    (heq : bracket :: d = t ++ c) : c = d := by
  obtain ⟨g, hg, rfl | ⟨k, hk, rfl⟩⟩ := h
  · have hsplit : bracket :: d = g ++ bracket :: c := by simpa using heq
    obtain ⟨-, -, hrest⟩ := span_cancel Gap.nil hg hb.1 hb.1 hsplit
    exact hrest.symm
  · have hsplit : bracket :: d = g ++ ',' :: (k ++ (bracket :: c)) := by simpa using heq
    obtain ⟨-, hcomma, -⟩ := span_cancel Gap.nil hg hb.1 (by decide) hsplit
    exact absurd hcomma hb.2

theorem aligned_of_continues {α : Type} {bracket : Char} {items : List α}
    {spelled : List Char → Prop} {texts : List (List Char)} {t c d : List Char} {P : Prop}
    (hb : isGap bracket = false ∧ bracket ≠ ',') (h : Continues bracket items spelled t)
    (hnil : items = [] → texts = [] ∧ P) (hne : ∀ s, spelled s → texts ≠ [])
    (hspelled : ∀ s, spelled s → [' '] ++ (commaSeparated texts ++ bracket :: d) = s ++ c → c = d ∧ P)
    (heq : othersWritten texts (bracket :: d) = t ++ c) : c = d ∧ P := by
  rcases h with ⟨hitems, ht⟩ | ⟨g, s, hg, rfl, hs⟩
  · obtain ⟨rfl, hP⟩ := hnil hitems
    exact ⟨aligned_of_closing hb ht heq, hP⟩
  · rw [othersWritten_of_ne_nil (hne s hs)] at heq
    have hsplit : ',' :: ([' '] ++ (commaSeparated texts ++ bracket :: d)) = g ++ ',' :: (s ++ c) := by
      simpa using heq
    obtain ⟨-, -, hrest⟩ := span_cancel Gap.nil hg (by decide) (by decide) hsplit
    exact hspelled s hs hrest

section Aligned

mutual

/-- Where what is written is what was taken, the verbatim texts are missed where they are written. -/
theorem Expression.Spelled.aligned : (e : Expression) → {u c d : List Char} → e.Shaped Kept →
    e.Spelled Verbatim u c → (∀ p ∈ e.verbatims d, Parted p) → e.written ++ d = u ++ c →
    c = d ∧ ∀ p ∈ e.verbatims d, Missed p
  | .integer text, u, c, d, _, ⟨hu, _⟩, _, heq => by
    rw [Expression.written, hu] at heq
    exact ⟨(List.append_cancel_left heq).symm, by simp [Expression.verbatims]⟩
  | .string segments, u, c, d, he, ⟨t, hu, ht⟩, hp, heq => by
    rw [hu] at heq
    exact SegmentsSpelled.aligned segments he ht hp (by simpa [Expression.written] using heq)
  | .dictionary entries, u, c, d, he, hu, hp, heq => by
    rcases hu with ⟨rfl, g, h, hg, hh, rfl⟩ | ⟨t, rfl, ht⟩
    · have hopen : ':' :: ']' :: d = g ++ ':' :: (h ++ ']' :: c) := by
        simpa [Expression.written] using heq
      obtain ⟨-, -, hrest⟩ := span_cancel Gap.nil hg (by decide) (by decide) hopen
      obtain ⟨-, -, hback⟩ := span_cancel Gap.nil hh (by decide) (by decide) hrest
      exact ⟨hback.symm, by simp [Expression.verbatims, entryVerbatims]⟩
    · have hne : entries ≠ [] := by
        rintro rfl
        exact ht
      rw [Expression.written_dictionary hne] at heq
      exact EntriesSpelled.aligned entries he ht hp Gap.nil (by simpa using heq)
  | .identifier _, u, c, d, _, ⟨hu, _⟩, _, heq => by
    rw [Expression.written, hu] at heq
    exact ⟨(List.append_cancel_left heq).symm, by simp [Expression.verbatims]⟩
  | .call callee arguments, u, c, d, he, ⟨name, t, hcallee, _, hu, hlist⟩, hp, heq => by
    subst hcallee
    have hinside : commaSeparated (argumentsWritten arguments) ++ ')' :: d = t ++ c := by
      rw [hu] at heq
      simpa [Expression.written] using heq
    rcases hlist with ⟨rfl, ht⟩ | hlist
    · exact ⟨aligned_of_closing (by decide) ht hinside,
        by simp [Expression.verbatims, argumentVerbatims]⟩
    · exact ArgumentsSpelled.aligned arguments he.2 hlist hp Gap.nil hinside
  | .other text, u, c, d, _, hu, hp, heq => by
    obtain ⟨-, -, hsplit, -⟩ := Verbatim.split hu
    have hparted : splitVerbatim 0 .outside (text.toList ++ d) = (text.toList, d) :=
      hp (text, d) (by simp [Expression.verbatims])
    rw [Expression.written] at heq
    rw [heq, hsplit] at hparted
    obtain ⟨rfl, rfl⟩ := Prod.mk.inj hparted
    refine ⟨rfl, fun p hp => ?_⟩
    obtain rfl : p = (text, c) := by simpa [Expression.verbatims] using hp
    exact (expressionShape_eq_other.1 hu.shape).1

theorem SegmentsSpelled.aligned : (segments : List Segment) → {t c d : List Char} →
    SegmentsShaped Kept segments → SegmentsSpelled Verbatim segments t c →
    (∀ p ∈ segmentVerbatims segments ('"' :: d), Parted p) →
    segmentsWritten segments ++ '"' :: d = t ++ c →
    c = d ∧ ∀ p ∈ segmentVerbatims segments ('"' :: d), Missed p
  | [], t, c, d, _, ht, _, heq => by
    obtain rfl : t = ['"'] := ht
    exact ⟨(List.cons.inj heq).2.symm, by simp [segmentVerbatims]⟩
  | .text value :: segments, t, c, d, ⟨_, he⟩, ⟨_, t', ht, ht'⟩, hp, heq => by
    rw [segmentsWritten, ht, List.append_assoc, List.append_assoc] at heq
    exact SegmentsSpelled.aligned segments he ht' hp (List.append_cancel_left heq)
  | .interpolation value :: segments, t, c, d, ⟨hvalued, he⟩,
      ⟨g, u, h, t', hg, hh, ht, hvalue, _, ht'⟩, hp, heq => by
    have hinside : [] ++ (value.written ++ (')' :: (segmentsWritten segments ++ '"' :: d))) =
        g ++ (u ++ (h ++ ')' :: (t' ++ c))) := by
      rw [ht] at heq
      simpa [segmentsWritten] using heq
    have hfront := Expression.Spelled.front hvalued hvalue Gap.nil hg hinside
    obtain ⟨hback, hmissed⟩ := Expression.Spelled.aligned value hvalued hvalue
      (fun p h => hp p (List.mem_append_left _ h)) hfront
    obtain ⟨-, -, hrest⟩ := span_cancel hh Gap.nil (by decide) (by decide) hback
    obtain ⟨hc, hmissed'⟩ := SegmentsSpelled.aligned segments he ht'
      (fun p h => hp p (List.mem_append_right _ h)) hrest.symm
    refine ⟨hc, fun p h => ?_⟩
    rcases List.mem_append.1 h with h | h
    · exact hmissed p h
    · exact hmissed' p h

theorem EntriesSpelled.aligned : (entries : List Entry) → {t c d g₀ : List Char} →
    EntriesShaped Kept entries → EntriesSpelled Verbatim entries t c →
    (∀ p ∈ entryVerbatims entries (']' :: d), Parted p) → Gap g₀ →
    g₀ ++ (commaSeparated (entriesWritten entries) ++ ']' :: d) = t ++ c →
    c = d ∧ ∀ p ∈ entryVerbatims entries (']' :: d), Missed p
  | ⟨key, value⟩ :: entries, t, c, d, g₀, ⟨hkeyed, hvalued, he⟩,
      ⟨g, u, h, k, v, t', hg, hh, hk, ht, hkey, _, hvalue, _, ht'⟩, hp, hg₀, heq => by
    have hkeys : g₀ ++ (key.written ++ (':' :: ' ' :: (value.written ++
        othersWritten (entriesWritten entries) (']' :: d)))) =
          g ++ (u ++ (h ++ ':' :: (k ++ (v ++ (t' ++ c))))) := by
      rw [entriesWritten, commaSeparated_cons_append, ht] at heq
      simpa using heq
    have hfront := Expression.Spelled.front hkeyed hkey hg₀ hg hkeys
    obtain ⟨hcolon, hmissed⟩ := Expression.Spelled.aligned key hkeyed hkey
      (fun p h => hp p (List.mem_append_left _ (List.mem_append_left _ h))) hfront
    obtain ⟨-, -, hvalues⟩ := span_cancel hh Gap.nil (by decide) (by decide) hcolon
    have hfront' := Expression.Spelled.front hvalued hvalue gap_space hk hvalues.symm
    obtain ⟨hback, hmissed'⟩ := Expression.Spelled.aligned value hvalued hvalue
      (fun p h => hp p (List.mem_append_left _ (List.mem_append_right _ h))) hfront'
    obtain ⟨hc, hmissed''⟩ := aligned_of_continues (by decide) ht'
      (by rintro rfl; exact ⟨rfl, by simp [entryVerbatims]⟩)
      (fun s hs => entriesWritten_ne_nil (by rintro rfl; exact hs))
      (fun s hs => EntriesSpelled.aligned entries he hs
        (fun p h => hp p (List.mem_append_right _ h)) gap_space) hback.symm
    refine ⟨hc, fun p h => ?_⟩
    rcases List.mem_append.1 h with h | h
    · rcases List.mem_append.1 h with h | h
      · exact hmissed p h
      · exact hmissed' p h
    · exact hmissed'' p h

theorem ArgumentsSpelled.aligned : (arguments : List Argument) → {t c d g₀ : List Char} →
    ArgumentsShaped Kept arguments → ArgumentsSpelled Verbatim arguments t c →
    (∀ p ∈ argumentVerbatims arguments (')' :: d), Parted p) → Gap g₀ →
    g₀ ++ (commaSeparated (argumentsWritten arguments) ++ ')' :: d) = t ++ c →
    c = d ∧ ∀ p ∈ argumentVerbatims arguments (')' :: d), Missed p
  | ⟨label, value⟩ :: arguments, t, c, d, g₀, ⟨_, hvalued, he⟩,
      ⟨l, u, t', hl, ht, hvalue, _, ht'⟩, hp, hg₀, heq => by
    have hvalues : g₀ ++ (labelWritten label ++ (value.written ++
        othersWritten (argumentsWritten arguments) (')' :: d))) = l ++ (u ++ (t' ++ c)) := by
      rw [argumentsWritten_cons, commaSeparated_cons_append, ht] at heq
      simpa using heq
    have hfront : value.written ++ othersWritten (argumentsWritten arguments) (')' :: d) =
        u ++ (t' ++ c) := by
      cases label with
      | none => exact Expression.Spelled.front hvalued hvalue hg₀ hl hvalues
      | some name =>
        obtain ⟨g, h, k, hg, hh, hk, hname, rfl⟩ := hl
        obtain ⟨x, w, hw, hx⟩ := isGap_of_isIdentifier hname
        have hwords : g₀ ++ x :: (w ++ ':' :: ' ' :: (value.written ++
            othersWritten (argumentsWritten arguments) (')' :: d))) =
              g ++ x :: (w ++ (h ++ ':' :: (k ++ (u ++ (t' ++ c))))) := by
          simpa [labelWritten, hw] using hvalues
        obtain ⟨-, -, hrest⟩ := span_cancel hg₀ hg hx hx hwords
        obtain ⟨-, -, hcolon⟩ := span_cancel Gap.nil (gap_of_spaces hh) (by decide) (by decide)
          (List.append_cancel_left hrest)
        exact Expression.Spelled.front hvalued hvalue gap_space hk hcolon
    obtain ⟨hback, hmissed⟩ := Expression.Spelled.aligned value hvalued hvalue
      (fun p h => hp p (List.mem_append_left _ h)) hfront
    obtain ⟨hc, hmissed'⟩ := aligned_of_continues (by decide) ht'
      (by rintro rfl; exact ⟨rfl, by simp [argumentVerbatims]⟩)
      (fun s hs => argumentsWritten_ne_nil (by rintro rfl; exact hs))
      (fun s hs => ArgumentsSpelled.aligned arguments he hs
        (fun p h => hp p (List.mem_append_right _ h)) gap_space) hback.symm
    refine ⟨hc, fun p h => ?_⟩
    rcases List.mem_append.1 h with h | h
    · exact hmissed p h
    · exact hmissed' p h

end

end Aligned

end SourceMacros

import SourceMacros.Proofs.Expression.Depth
import SourceMacros.Proofs.Nesting.Alike

/-! For the scan, what is written for an expression is the same as the text it was read off,
`Expression.Spelled.same`: gaps, blanks and commas are all that differs. -/

namespace SourceMacros

open Text Reader Nesting

theorem isIdle_of_isBlank {c : Char} (hc : isBlank c = true) : isIdle c = true := by
  have hb : c ≠ '\\' := by
    rintro rfl
    exact absurd hc (by decide)
  simp [isIdle, isQuiet_of_isBlank hc, hb]

theorem idle_blank {b : List Char} (hb : Blank b) : Idle b := fun c hc => isIdle_of_isBlank (hb c hc)

theorem idle_gap {g : List Char} (hg : Gap g) : Idle g :=
  fun c hc => isIdle_of_isBlank (isBlank_of_isGap (hg c hc))

theorem idle_identifier {name : String} (h : isIdentifier name = true) : Idle name.toList := by
  intro c hc
  have hword := continuesIdentifier_of_mem h hc
  have hb : c ≠ '\\' := by
    rintro rfl
    exact absurd hword (by decide)
  simp [isIdle, isQuiet_of_flat flat_continuesIdentifier (by decide) hword, hb]

theorem idle_single {c : Char} (hc : isIdle c = true) : Idle [c] := Idle.cons hc Idle.nil

section Lists

variable {q q' : Scan} {s s' g : List Char}

theorem not_escaped_run_append (q : Scan) (s : List Char) {k : Char} (hk : k ≠ '\\') :
    (q.run (s ++ [k])).escaped = false := by
  rw [Scan.run_append]
  exact Scan.not_escaped_next _ hk

theorem Nesting.Same.close (h : Same q s q' s') (hg : Idle g) {k : Char} (hk : isPlain k = true) :
    Meets q (s ++ (g ++ [k])) q' (s' ++ [k]) := by
  have hgap := h.run.same hg Idle.nil
  have hend := hgap.meets (hgap.run.meets hk)
  exact h.meets hend

theorem meets_of_closing {bracket : Char} {t : List Char} (hb : isPlain bracket = true)
    (h : Closing bracket t) (hq : Alike q q') : Meets q t q' [bracket] := by
  obtain ⟨g, hg, rfl | ⟨k, hk, rfl⟩⟩ := h
  · have hgap := hq.same (idle_gap hg) Idle.nil
    exact hgap.meets (hgap.run.meets hb)
  · have hidle : Idle (g ++ ',' :: k) := (idle_gap hg).append (Idle.cons (by decide) (idle_gap hk))
    have hgap := hq.same hidle Idle.nil
    simpa using hgap.meets (hgap.run.meets hb)

theorem meets_of_continues {α : Type} {bracket : Char} {items : List α} {spelled : List Char → Prop}
    {texts : List (List Char)} {t : List Char} (hb : isPlain bracket = true)
    (h : Continues bracket items spelled t) (hnil : items = [] → texts = [])
    (hspelled : ∀ t, spelled t → texts ≠ [] ∧
      ∀ q : Scan, q.escaped = false → Meets q t q (commaSeparated texts ++ [bracket]))
    (hq : Alike q q') : Meets q t q' (othersWritten texts [bracket]) := by
  rcases h with ⟨hitems, ht⟩ | ⟨g, v, hg, rfl, hv⟩
  · rw [hnil hitems]
    exact meets_of_closing hb ht hq
  · obtain ⟨hne, hmeets⟩ := hspelled v hv
    have hidle : Idle (g ++ [',']) := (idle_gap hg).append (idle_single (by decide))
    have hcomma : Meets q (g ++ [',']) q' [',', ' '] :=
      hq.meets_idle hidle (Idle.cons (by decide) (idle_single (by decide))) (by simp) (by simp)
    have hrest := hmeets _ (not_escaped_run_append q g (k := ',') (by decide))
    rw [othersWritten_of_ne_nil hne]
    simpa using hcomma.append hrest

end Lists

mutual

/-- What was taken and what is written open as much for the scan. -/
theorem Expression.Spelled.same : (e : Expression) → {u c : List Char} → e.Spelled Verbatim u c →
    {q : Scan} → q.escaped = false → Same q u q e.written
  | .integer _, u, c, ⟨hu, _⟩, q, hq => hu ▸ (Meets.refl q u).same (Scan.sane_of_not_escaped hq)
  | .string segments, u, c, ⟨t, hu, ht⟩, q, hq => by
    have hsegments := SegmentsSpelled.meets segments ht (q.run ['"'])
    rw [hu]
    exact ((Meets.refl q ['"']).append hsegments).same (Scan.sane_of_not_escaped hq)
  | .dictionary entries, u, c, hu, q, hq => by
    have hopen : (q.run ['[']).escaped = false := Scan.not_escaped_next q (by decide)
    have hsane := Scan.sane_of_not_escaped hq
    rcases hu with ⟨rfl, g, h, hg, hh, rfl⟩ | ⟨t, rfl, ht⟩
    · have hidle : Idle (g ++ ':' :: h) := (idle_gap hg).append (Idle.cons (by decide) (idle_gap hh))
      have hcolon := (Alike.refl (Scan.sane_of_not_escaped hopen)).same hidle (idle_single (c := ':') (by decide))
      have hinside := hcolon.meets (hcolon.run.meets (c := ']') (by decide))
      have hall := ((Meets.refl q ['[']).append hinside).same hsane
      simpa [Expression.written] using hall
    · have hne : entries ≠ [] := by
        rintro rfl
        exact ht
      have hall := ((Meets.refl q ['[']).append (EntriesSpelled.meets entries ht hopen)).same hsane
      rw [Expression.written_dictionary hne]
      exact hall
  | .identifier _, u, c, ⟨hu, _⟩, q, hq => hu ▸ (Meets.refl q u).same (Scan.sane_of_not_escaped hq)
  | .call callee arguments, u, c, ⟨name, t, hcallee, hname, hu, hlist⟩, q, hq => by
    subst hcallee
    have hopen : (q.run (name.toList ++ ['('])).escaped = false :=
      not_escaped_run_append q name.toList (by decide)
    have hinside : Meets (q.run (name.toList ++ ['('])) t (q.run (name.toList ++ ['(']))
        (commaSeparated (argumentsWritten arguments) ++ [')']) := by
      rcases hlist with ⟨rfl, ht⟩ | ht
      · exact meets_of_closing (by decide) ht (Alike.refl (Scan.sane_of_not_escaped hopen))
      · exact ArgumentsSpelled.meets arguments ht hopen
    have hall := ((Meets.refl q (name.toList ++ ['('])).append hinside).same (Scan.sane_of_not_escaped hq)
    simpa [Expression.written, hu] using hall
  | .other text, u, c, hu, q, hq => by
    obtain ⟨-, -, -, b, b', hb, hb', rfl⟩ := Verbatim.split hu
    have htext := (Meets.refl q text.toList).same (Scan.sane_of_not_escaped hq)
    have hback := htext.append (htext.run.same (idle_blank hb') Idle.nil)
    simpa [Expression.written] using hback.idle hq (idle_blank hb) Idle.nil

theorem SegmentsSpelled.meets : (segments : List Segment) → {t c : List Char} →
    SegmentsSpelled Verbatim segments t c → (q : Scan) →
    Meets q t q (segmentsWritten segments ++ ['"'])
  | [], t, c, ht, q => by
    obtain rfl : t = ['"'] := ht
    exact Meets.refl q _
  | .text value :: segments, t, c, ⟨_, t', ht, ht'⟩, q => by
    have hall := (Meets.refl q value.toList).append (SegmentsSpelled.meets segments ht' _)
    simpa [segmentsWritten, ht] using hall
  | .interpolation value :: segments, t, c, ⟨g, u, h, t', hg, hh, ht, hvalue, _, ht'⟩, q => by
    have hopen : (q.run ['\\', '(']).escaped = false := Scan.not_escaped_next _ (by decide)
    have hinside := ((Expression.Spelled.same value hvalue hopen).idle hopen (idle_gap hg)
      Idle.nil).close (idle_gap hh) (k := ')') (by decide)
    have hall := ((Meets.refl q ['\\', '(']).append hinside).append
      (SegmentsSpelled.meets segments ht' _)
    simpa [segmentsWritten, ht] using hall

theorem EntriesSpelled.meets : (entries : List Entry) → {t c : List Char} →
    EntriesSpelled Verbatim entries t c → {q : Scan} → q.escaped = false →
    Meets q t q (commaSeparated (entriesWritten entries) ++ [']'])
  | ⟨key, value⟩ :: entries, t, c,
      ⟨g, u, h, k, v, t', hg, hh, hk, ht, hkey, _, hvalue, _, ht'⟩, q, hq => by
    have hcolon := ((Expression.Spelled.same key hkey hq).idle hq (idle_gap hg) Idle.nil).close
      (idle_gap hh) (k := ':') (by decide)
    have hback := not_escaped_run_append q (g ++ u ++ h) (k := ':') (by decide)
    rw [show g ++ u ++ h ++ [':'] = g ++ u ++ (h ++ [':']) by simp] at hback
    have hright := (Expression.Spelled.same value hvalue hback).idle hback (idle_gap hk)
      (idle_single (c := ' ') (by decide))
    have htail := meets_of_continues (by decide) ht'
      (by rintro rfl; rfl)
      (fun t hs => ⟨entriesWritten_ne_nil (by rintro rfl; exact hs),
        fun q hq => EntriesSpelled.meets entries hs hq⟩) hright.run
    have hall := hcolon.append (hright.meets htail)
    rw [entriesWritten, commaSeparated_cons_append]
    simpa [ht] using hall

theorem ArgumentsSpelled.meets : (arguments : List Argument) → {t c : List Char} →
    ArgumentsSpelled Verbatim arguments t c → {q : Scan} → q.escaped = false →
    Meets q t q (commaSeparated (argumentsWritten arguments) ++ [')'])
  | ⟨label, value⟩ :: arguments, t, c, ⟨l, u, t', hl, ht, hvalue, _, ht'⟩, q, hq => by
    have hidle : Idle l ∧ Idle (labelWritten label) := by
      cases label with
      | none => exact ⟨idle_gap hl, Idle.nil⟩
      | some name =>
        obtain ⟨g, h, k, hg, hh, hk, hname, rfl⟩ := hl
        have hword := idle_identifier hname
        exact ⟨(idle_gap hg).append (hword.append ((idle_gap (gap_of_spaces hh)).append
          (Idle.cons (by decide) (idle_gap hk)))),
          hword.append (Idle.cons (by decide) (idle_single (by decide)))⟩
    have hfront := (Expression.Spelled.same value hvalue hq).idle hq hidle.1 hidle.2
    have htail := meets_of_continues (by decide) ht'
      (by rintro rfl; rfl)
      (fun t hs => ⟨argumentsWritten_ne_nil (by rintro rfl; exact hs),
        fun q hq => ArgumentsSpelled.meets arguments hs hq⟩) hfront.run
    rw [argumentsWritten_cons, commaSeparated_cons_append]
    simpa [ht] using hfront.meets htail

end

end SourceMacros

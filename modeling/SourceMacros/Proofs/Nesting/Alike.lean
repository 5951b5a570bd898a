import SourceMacros.Proofs.Nesting.Scan

/-! Two texts are the same for the scan if as many levels are open in both, at most and at the end. Blanks
and signs that open and close nothing may stand between the parts of one text and not of the other. -/

namespace SourceMacros.Nesting

/-- A character that opens and closes nothing, in literals or outside, and escapes nothing. -/
def isIdle (c : Char) : Bool := isQuiet c && c != '\\'

def Idle (s : List Char) : Prop := ∀ c ∈ s, isIdle c = true

/-- A character that does the same to a literal whether or not it is escaped there. -/
def isPlain (c : Char) : Bool := c != '"' && c != '\\' && c != '('

namespace Scan

/-- A backslash waits in literals alone. -/
def Sane (q : Scan) : Prop := q.escaped = true → q.frames.head? = some .text

theorem sane_of_not_escaped {q : Scan} (h : q.escaped = false) : q.Sane := by
  intro he
  rw [h] at he
  cases he

theorem sane_next (q : Scan) (c : Char) : (q.next c).Sane := by
  unfold next
  split
  · exact sane_of_not_escaped rfl
  · split
    case isTrue h => exact fun _ => h.1
    case isFalse => exact sane_of_not_escaped rfl

theorem sane_run {q : Scan} (h : q.Sane) (s : List Char) : (q.run s).Sane := by
  induction s generalizing q with
  | nil => exact h
  | cons c s ih => exact ih (sane_next q c)

theorem not_escaped_next (q : Scan) {c : Char} (hc : c ≠ '\\') : (q.next c).escaped = false := by
  unfold next
  split
  · rfl
  · simp [hc]

theorem next_idle (q : Scan) {c : Char} (hc : isIdle c = true) : q.next c = of q.frames := by
  simp only [isIdle, Bool.and_eq_true, bne_iff_ne, ne_eq] at hc
  obtain ⟨hq, hb⟩ := hc
  simp only [isQuiet, Bool.and_eq_true, bne_iff_ne, ne_eq, Bool.not_eq_true'] at hq
  obtain ⟨⟨hquote, ho⟩, hk⟩ := hq
  have hparen : c ≠ '(' := by
    rintro rfl
    exact absurd ho (by decide)
  unfold next
  split
  · simp [afterEscape, hparen]
  · rw [if_neg fun h => hb h.2]
    congr 1
    unfold after
    split
    case h_1 F _ hF => simp [hquote, hF]
    case h_2 => simp [hquote, ho, hk]

end Scan

open Scan

theorem Idle.nil : Idle [] := by simp [Idle]

theorem Idle.append {s t : List Char} (hs : Idle s) (ht : Idle t) : Idle (s ++ t) := by
  intro c hc
  rcases List.mem_append.1 hc with hc | hc
  · exact hs c hc
  · exact ht c hc

theorem Idle.cons {c : Char} {s : List Char} (hc : isIdle c = true) (hs : Idle s) : Idle (c :: s) :=
  List.forall_mem_cons.2 ⟨hc, hs⟩

theorem Idle.frames_run {s : List Char} (h : Idle s) (q : Scan) : (q.run s).frames = q.frames := by
  induction s generalizing q with
  | nil => rfl
  | cons c s ih =>
    obtain ⟨hc, hs⟩ := List.forall_mem_cons.1 h
    rw [run_cons, ih hs, next_idle q hc]

theorem Idle.peak {s : List Char} (h : Idle s) (q : Scan) : q.peak s = q.frames.length := by
  induction s generalizing q with
  | nil => rfl
  | cons c s ih =>
    obtain ⟨hc, hs⟩ := List.forall_mem_cons.1 h
    rw [Scan.peak, ih hs, next_idle q hc, max_self]

theorem Idle.not_escaped_run {s : List Char} (h : Idle s) {q : Scan}
    (hq : s = [] → q.escaped = false) : (q.run s).escaped = false := by
  induction s generalizing q with
  | nil => exact hq rfl
  | cons c s ih =>
    obtain ⟨hc, hs⟩ := List.forall_mem_cons.1 h
    exact ih hs fun _ => by rw [next_idle q hc]

/-- Where no character is escaped, idle text changes nothing. -/
theorem Idle.run {s : List Char} (h : Idle s) {q : Scan} (hq : q.escaped = false) : q.run s = q := by
  have hframes := h.frames_run q
  have hescaped := h.not_escaped_run fun _ => hq
  cases hrun : q.run s
  cases q
  simp_all

/-- The same is open, though a backslash may wait in one state alone. -/
structure Alike (q q' : Scan) : Prop where
  frames : q.frames = q'.frames
  sane : q.Sane
  sane' : q'.Sane

theorem Alike.refl {q : Scan} (h : q.Sane) : Alike q q := ⟨rfl, h, h⟩

theorem Alike.eq {q q' : Scan} (h : Alike q q') (hq : q.escaped = false) (hq' : q'.escaped = false) :
    q = q' := by
  obtain ⟨frames, escaped⟩ := q
  obtain ⟨frames', escaped'⟩ := q'
  obtain rfl : frames = frames' := h.frames
  obtain rfl : escaped = false := hq
  obtain rfl : escaped' = false := hq'
  rfl

theorem Alike.idle {q q' : Scan} (h : Alike q q') {s s' : List Char} (hs : Idle s) (hs' : Idle s') :
    Alike (q.run s) (q'.run s') :=
  ⟨by rw [hs.frames_run, hs'.frames_run, h.frames], sane_run h.sane s, sane_run h.sane' s'⟩

/-- After a plain character alike states are equal. -/
theorem Alike.next_eq {q q' : Scan} (h : Alike q q') {c : Char} (hc : isPlain c = true) :
    q.next c = q'.next c := by
  simp only [isPlain, Bool.and_eq_true, bne_iff_ne, ne_eq] at hc
  obtain ⟨⟨hquote, hb⟩, hparen⟩ := hc
  have htext : ∀ {F : List Frame}, F.head? = some .text → after F c = F := by
    intro F hF
    cases F with
    | nil => cases hF
    | cons f F =>
      obtain rfl : f = .text := Option.some.inj hF
      simp [after, hquote]
  obtain ⟨frames, escaped⟩ := q
  obtain ⟨frames', escaped'⟩ := q'
  obtain rfl : frames = frames' := h.frames
  cases escaped with
  | false =>
    cases escaped' with
    | false => rfl
    | true => simp [next, afterEscape, hb, hparen, htext (h.sane' rfl)]
  | true =>
    cases escaped' with
    | false => simp [next, afterEscape, hb, hparen, htext (h.sane rfl)]
    | true => rfl

/-- From the two states the texts open as much at most, and the same in the end but for an escape. -/
structure Same (q : Scan) (s : List Char) (q' : Scan) (s' : List Char) : Prop where
  peak : q.peak s = q'.peak s'
  run : Alike (q.run s) (q'.run s')

structure Meets (q : Scan) (s : List Char) (q' : Scan) (s' : List Char) : Prop where
  peak : q.peak s = q'.peak s'
  run : q.run s = q'.run s'

section Same

variable {q q' : Scan} {s s' t t' : List Char}

theorem Same.append (h : Same q s q' s') (ht : Same (q.run s) t (q'.run s') t') :
    Same q (s ++ t) q' (s' ++ t') := by
  refine ⟨?_, ?_⟩
  · rw [peak_append, peak_append, h.peak, ht.peak]
  · rw [run_append, run_append]
    exact ht.run

theorem Same.meets (h : Same q s q' s') (ht : Meets (q.run s) t (q'.run s') t') :
    Meets q (s ++ t) q' (s' ++ t') := by
  refine ⟨?_, ?_⟩
  · rw [peak_append, peak_append, h.peak, ht.peak]
  · rw [run_append, run_append, ht.run]

theorem Meets.same (h : Meets q s q' s') (hq : q.Sane) : Same q s q' s' :=
  ⟨h.peak, h.run ▸ Alike.refl (sane_run hq s)⟩

theorem Meets.append (h : Meets q s q' s') (ht : Meets (q.run s) t (q.run s) t') :
    Meets q (s ++ t) q' (s' ++ t') := by
  refine ⟨?_, ?_⟩
  · rw [peak_append, peak_append, h.peak, ht.peak, h.run]
  · rw [run_append, run_append, ht.run, h.run]

theorem Meets.then_same (h : Meets q s q' s') (ht : Same (q.run s) t (q.run s) t') :
    Same q (s ++ t) q' (s' ++ t') := by
  refine ⟨?_, ?_⟩
  · rw [peak_append, peak_append, h.peak, ht.peak, h.run]
  · rw [run_append, run_append, ← h.run]
    exact ht.run

theorem Meets.refl (q : Scan) (s : List Char) : Meets q s q s := ⟨rfl, rfl⟩

theorem Alike.same (h : Alike q q') (hs : Idle s) (hs' : Idle s') : Same q s q' s' := by
  refine ⟨?_, h.idle hs hs'⟩
  rw [hs.peak, hs'.peak, h.frames]

theorem Alike.meets (h : Alike q q') {c : Char} (hc : isPlain c = true) : Meets q [c] q' [c] := by
  refine ⟨?_, h.next_eq hc⟩
  simp [Scan.peak, h.next_eq hc, h.frames]

theorem Alike.meets_idle (h : Alike q q') (hs : Idle s) (hs' : Idle s') (hne : s ≠ [])
    (hne' : s' ≠ []) : Meets q s q' s' := by
  refine ⟨(h.same hs hs').peak, (h.idle hs hs').eq ?_ ?_⟩
  · exact hs.not_escaped_run fun hnil => absurd hnil hne
  · exact hs'.not_escaped_run fun hnil => absurd hnil hne'

/-- Where nothing is escaped, idle text in front makes no difference. -/
theorem Same.idle (h : Same q t q t') (hq : q.escaped = false) (hs : Idle s) (hs' : Idle s') :
    Same q (s ++ t) q (s' ++ t') := by
  have hfront := (Alike.refl (sane_of_not_escaped hq)).same hs hs'
  refine hfront.append ?_
  rw [hs.run hq, hs'.run hq]
  exact h

end Same

end SourceMacros.Nesting

import Mathlib.Order.MinMax
import SourceMacros.Reader.Nesting

/-! The nesting of a text as a machine that takes one character at a time. A text is accepted where the
machine never has more open than the limit, `tooDeepAt_eq_none_iff`. A text spans `d` levels if,
started outside literals, the machine ends as it began and opens `d` levels at most on the way. -/

namespace SourceMacros.Nesting

/-- What is open, and whether a backslash in a literal waits for the character it escapes. -/
structure Scan where
  frames : List Frame
  escaped : Bool
  deriving DecidableEq

namespace Scan

abbrev of (frames : List Frame) : Scan := ⟨frames, false⟩

def next (q : Scan) (c : Char) : Scan :=
  if q.escaped then of (afterEscape q.frames c)
  else if q.frames.head? = some .text ∧ c = '\\' then ⟨q.frames, true⟩
  else of (after q.frames c)

def run (q : Scan) (s : List Char) : Scan := s.foldl next q

/-- The largest number of frames that are open at once. -/
def peak : Scan → List Char → Nat
  | q, [] => q.frames.length
  | q, c :: s => max q.frames.length (peak (q.next c) s)

@[simp] theorem next_escaped (frames : List Frame) (c : Char) :
    next ⟨frames, true⟩ c = of (afterEscape frames c) := rfl

theorem next_backslash (frames : List Frame) :
    (of (.text :: frames)).next '\\' = ⟨.text :: frames, true⟩ := rfl

theorem next_of {frames : List Frame} {c : Char}
    (h : frames.head? = some .text → c ≠ '\\') : (of frames).next c = of (after frames c) := by
  have hn : ¬(frames.head? = some .text ∧ c = '\\') := fun hc => h hc.1 hc.2
  simp [next, hn]

@[simp] theorem run_nil (q : Scan) : q.run [] = q := rfl

@[simp] theorem run_cons (q : Scan) (c : Char) (s : List Char) :
    q.run (c :: s) = (q.next c).run s := rfl

@[simp] theorem run_append (q : Scan) (s t : List Char) : q.run (s ++ t) = (q.run s).run t :=
  List.foldl_append

theorem length_le_peak (q : Scan) (s : List Char) : q.frames.length ≤ q.peak s := by
  cases s <;> simp [peak]

theorem length_run_le_peak (q : Scan) (s : List Char) : (q.run s).frames.length ≤ q.peak s := by
  induction s generalizing q with
  | nil => simp [peak]
  | cons c s ih => exact (ih (q.next c)).trans (le_max_right _ _)

theorem peak_append (q : Scan) (s t : List Char) :
    q.peak (s ++ t) = max (q.peak s) ((q.run s).peak t) := by
  induction s generalizing q with
  | nil => simp [peak, length_le_peak]
  | cons c s ih => simp [peak, ih, max_assoc]

end Scan

/-- At the end of the text a backslash in a literal stands for itself. -/
theorem Scan.peak_cons_of {frames : List Frame} {c : Char} {rest : List Char}
    (h : ∀ f d t, frames = .text :: f → c = '\\' → rest = d :: t → False) :
    (Scan.of frames).peak (c :: rest) =
      max frames.length ((Scan.of (after frames c)).peak rest) := by
  by_cases hb : frames.head? = some .text ∧ c = '\\'
  · obtain ⟨hf, rfl⟩ := hb
    obtain ⟨f, rfl⟩ : ∃ f, frames = .text :: f := by
      cases frames with
      | nil => cases hf
      | cons x f => exact ⟨f, by simpa using hf⟩
    have hrest : rest = [] := by
      cases rest with
      | nil => rfl
      | cons d t => exact (h f d t rfl rfl rfl).elim
    subst hrest
    simp [Scan.peak, Scan.next_backslash, after]
  · rw [Scan.peak, Scan.next_of fun hf hc => hb ⟨hf, hc⟩]

/-- A text is refused just where more than the levels allowed are open at once. -/
theorem tooDeepAt_eq_none_iff {levels : Nat} {frames : List Frame} (h : frames.length ≤ levels)
    (s : List Char) : tooDeepAt levels frames s = none ↔ (Scan.of frames).peak s ≤ levels := by
  fun_induction tooDeepAt levels frames s with
  | case1 frames => simpa [Scan.peak] using h
  | case2 frames c rest opened hdeep =>
    have hpeak := Scan.length_le_peak (Scan.of opened) rest
    simp only [reduceCtorEq, false_iff, Scan.peak, Scan.next_backslash, Scan.next_escaped]
    simp only [opened] at hpeak hdeep
    omega
  | case3 frames c rest opened hdeep ih =>
    rw [ih (by omega)]
    simp only [Scan.peak, Scan.next_backslash, Scan.next_escaped, max_le_iff]
    exact ⟨fun hp => ⟨h, h, hp⟩, fun hp => hp.2.2⟩
  | case4 frames c rest hplain opened hdeep =>
    have hpeak := Scan.length_le_peak (Scan.of opened) rest
    rw [Scan.peak_cons_of hplain]
    simp only [reduceCtorEq, false_iff]
    simp only [opened] at hpeak hdeep
    omega
  | case5 frames c rest hplain opened hdeep ih =>
    rw [ih (by omega), Scan.peak_cons_of hplain, max_le_iff]
    exact ⟨fun hp => ⟨h, hp⟩, fun hp => hp.2⟩

/-- Started where the innermost open thing is a literal, or is none, the machine ends as it began and
has `depth` more frames open at most. -/
structure Spans (inside : Bool) (s : List Char) (depth : Nat) : Prop where
  run_eq : ∀ F : List Frame, (F.head? = some .text ↔ inside = true) →
    (Scan.of F).run s = Scan.of F
  peak_eq : ∀ F : List Frame, (F.head? = some .text ↔ inside = true) →
    (Scan.of F).peak s = F.length + depth

/-- A character that opens and closes nothing outside of literals. -/
def isQuiet (c : Char) : Bool := c != '"' && !isOpener c && !isCloser c

theorem after_eq_of_quiet {F : List Frame} {c : Char} (hF : F.head? ≠ some .text)
    (hc : isQuiet c = true) : after F c = F := by
  simp only [isQuiet, Bool.and_eq_true, bne_iff_ne, ne_eq, Bool.not_eq_true'] at hc
  unfold after
  split
  · simp at hF
  · simp [hc]

theorem after_eq_of_opener {F : List Frame} {c : Char} (hF : F.head? ≠ some .text)
    (hc : isOpener c = true) : after F c = .group :: F := by
  have hq : c ≠ '"' := by rintro rfl; exact absurd hc (by decide)
  unfold after
  split
  · simp at hF
  · simp [hc, hq]

theorem isOpener_of_isCloser {c : Char} (hc : isCloser c = true) : isOpener c = false := by
  simp only [isCloser, Bool.or_eq_true, beq_iff_eq] at hc
  rcases hc with (rfl | rfl) | rfl <;> decide

theorem after_eq_of_closer {F : List Frame} {c : Char} (hF : F.head? ≠ some .text)
    (hc : isCloser c = true) : after F c = F.tail := by
  have hq : c ≠ '"' := by rintro rfl; exact absurd hc (by decide)
  have ho := isOpener_of_isCloser hc
  unfold after
  split
  · simp at hF
  · simp [hc, hq, ho]

namespace Spans

variable {inside : Bool} {s t : List Char} {d e : Nat}

theorem nil : Spans inside [] 0 := ⟨fun _ _ => rfl, fun _ _ => rfl⟩

theorem append (hs : Spans inside s d) (ht : Spans inside t e) :
    Spans inside (s ++ t) (max d e) := by
  refine ⟨fun F hF => ?_, fun F hF => ?_⟩
  · rw [Scan.run_append, hs.run_eq F hF, ht.run_eq F hF]
  · rw [Scan.peak_append, hs.run_eq F hF, hs.peak_eq F hF, ht.peak_eq F hF, Nat.add_max_add_left]

theorem single {c : Char} (h : ∀ F : List Frame, (F.head? = some .text ↔ inside = true) →
    (Scan.of F).next c = Scan.of F) : Spans inside [c] 0 :=
  ⟨fun F hF => by simp [h F hF], fun F hF => by simp [Scan.peak, h F hF]⟩

theorem quiet_single {c : Char} (hc : isQuiet c = true) : Spans false [c] 0 := by
  refine single fun F hF => ?_
  have hF' : F.head? ≠ some .text := by simpa using hF
  rw [Scan.next_of fun h => absurd h hF', after_eq_of_quiet hF' hc]

theorem quiet (hs : ∀ c ∈ s, isQuiet c = true) : Spans false s 0 := by
  induction s with
  | nil => exact nil
  | cons c s ih =>
    have hc := quiet_single (hs c (by simp))
    exact hc.append (ih fun x hx => hs x (by simp [hx]))

/-- Brackets around a text put it one level deeper. -/
theorem bracket {o k : Char} (ho : isOpener o = true) (hk : isCloser k = true)
    (hs : Spans false s d) : Spans false (o :: (s ++ [k])) (d + 1) := by
  have hstep : ∀ F : List Frame, (F.head? = some .text ↔ false = true) →
      (Scan.of F).next o = Scan.of (.group :: F) ∧
        (Scan.of (.group :: F)).next k = Scan.of F := by
    intro F hF
    have hF' : F.head? ≠ some .text := by simpa using hF
    rw [Scan.next_of fun h => absurd h hF', Scan.next_of (by simp), after_eq_of_opener hF' ho,
      after_eq_of_closer (by simp) hk]
    exact ⟨rfl, rfl⟩
  refine ⟨fun F hF => ?_, fun F hF => ?_⟩
  · rw [Scan.run_cons, (hstep F hF).1, Scan.run_append, hs.run_eq _ (by simp)]
    simp [(hstep F hF).2]
  · rw [Scan.peak, (hstep F hF).1, Scan.peak_append, hs.run_eq _ (by simp), hs.peak_eq _ (by simp)]
    simp only [Scan.peak, (hstep F hF).2, List.length_cons]
    omega

theorem quoted (hs : Spans true s d) : Spans false ('"' :: (s ++ ['"'])) (d + 1) := by
  have hstep : ∀ F : List Frame, (F.head? = some .text ↔ false = true) →
      (Scan.of F).next '"' = Scan.of (.text :: F) := by
    intro F hF
    have hF' : F.head? ≠ some .text := by simpa using hF
    rw [Scan.next_of fun h => absurd h hF']
    unfold after
    split
    · simp at hF
    · simp
  have hback : ∀ F : List Frame, (Scan.of (.text :: F)).next '"' = Scan.of F := fun F => rfl
  refine ⟨fun F hF => ?_, fun F hF => ?_⟩
  · rw [Scan.run_cons, hstep F hF, Scan.run_append, hs.run_eq _ (by simp)]
    simp [hback]
  · rw [Scan.peak, hstep F hF, Scan.peak_append, hs.run_eq _ (by simp), hs.peak_eq _ (by simp)]
    simp only [Scan.peak, hback, List.length_cons]
    omega

theorem text_single {c : Char} (hq : c ≠ '"') (hb : c ≠ '\\') : Spans true [c] 0 := by
  refine single fun F hF => ?_
  obtain ⟨f, rfl⟩ : ∃ f, F = .text :: f := by
    cases F with
    | nil => simp at hF
    | cons x f => exact ⟨f, by simpa using hF⟩
  rw [Scan.next_of fun _ => hb]
  simp [after, hq]

theorem text_escape {c : Char} (hc : c ≠ '(') : Spans true ['\\', c] 0 := by
  have hrun : ∀ F : List Frame, (F.head? = some .text ↔ true = true) →
      (Scan.of F).next '\\' = ⟨F, true⟩ ∧ Scan.next ⟨F, true⟩ c = Scan.of F := by
    intro F hF
    obtain ⟨f, rfl⟩ : ∃ f, F = .text :: f := by
      cases F with
      | nil => simp at hF
      | cons x f => exact ⟨f, by simpa using hF⟩
    exact ⟨rfl, by simp [afterEscape, hc]⟩
  refine ⟨fun F hF => ?_, fun F hF => ?_⟩
  · rw [Scan.run_cons, (hrun F hF).1, Scan.run_cons, (hrun F hF).2, Scan.run_nil]
  · rw [Scan.peak, (hrun F hF).1, Scan.peak, (hrun F hF).2]
    simp [Scan.peak]

theorem interpolation (hs : Spans false s d) :
    Spans true ('\\' :: '(' :: (s ++ [')'])) (d + 1) := by
  have hrun : ∀ F : List Frame, (F.head? = some .text ↔ true = true) →
      (Scan.of F).next '\\' = ⟨F, true⟩ ∧ Scan.next ⟨F, true⟩ '(' = Scan.of (.group :: F) ∧
        (Scan.of (.group :: F)).next ')' = Scan.of F := by
    intro F hF
    obtain ⟨f, rfl⟩ : ∃ f, F = .text :: f := by
      cases F with
      | nil => simp at hF
      | cons x f => exact ⟨f, by simpa using hF⟩
    exact ⟨rfl, rfl, rfl⟩
  refine ⟨fun F hF => ?_, fun F hF => ?_⟩
  · obtain ⟨h₁, h₂, h₃⟩ := hrun F hF
    rw [Scan.run_cons, h₁, Scan.run_cons, h₂, Scan.run_append, hs.run_eq _ (by simp)]
    simp [h₃]
  · obtain ⟨h₁, h₂, h₃⟩ := hrun F hF
    rw [Scan.peak, h₁, Scan.peak, h₂, Scan.peak_append, hs.run_eq _ (by simp),
      hs.peak_eq _ (by simp)]
    simp only [Scan.peak, h₃, List.length_cons]
    omega

end Spans

theorem Spans.tooDeepAt_eq_none_iff {s : List Char} {depth : Nat} (h : Spans false s depth)
    (levels : Nat) : tooDeepAt levels [] s = none ↔ depth ≤ levels := by
  rw [Nesting.tooDeepAt_eq_none_iff (Nat.zero_le _), h.peak_eq [] (by simp)]
  simp

end SourceMacros.Nesting

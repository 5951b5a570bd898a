import SourceMacros.Proofs.Nesting.Alike

/-! The place for which the nesting of a text is refused: what opens one level too many for the first time,
`tooDeepAt_eq_some_iff`. Idle text in front of the text and any text behind it leave the place as it is. -/

namespace SourceMacros.Nesting

open Scan

/-- Before the place, started with the given frames, no more than the levels are open at any time. There one
more is opened, by the first character or by the two that begin an interpolation in a literal. -/
structure Exceeds (levels : Nat) (frames : List Frame) (before place : List Char) : Prop where
  shallow : (Scan.of frames).peak before ≤ levels
  opens : ∃ F, (Scan.of frames).run before = Scan.of F ∧
    ((∃ c rest, place = c :: rest ∧ levels < (after F c).length) ∨
      ∃ G rest, F = .text :: G ∧ place = '\\' :: '(' :: rest ∧ levels < F.length + 1)

namespace Exceeds

variable {levels : Nat} {frames : List Frame} {before place : List Char}

theorem ne_nil (h : Exceeds levels frames before place) : place ≠ [] := by
  obtain ⟨F, -, ⟨c, rest, rfl, -⟩ | ⟨G, rest, -, rfl, -⟩⟩ := h.opens <;> simp

theorem not_escaped (h : Exceeds levels frames before place) :
    ((Scan.of frames).run before).escaped = false := by
  obtain ⟨F, hF, -⟩ := h.opens
  rw [hF]

theorem length_le (h : Exceeds levels frames before place) : frames.length ≤ levels :=
  (length_le_peak (Scan.of frames) before).trans h.shallow

/-- What is read first may be taken away, if it leaves nothing escaped. -/
theorem append_iff {read : List Char} {F : List Frame} (hrun : (Scan.of frames).run read = Scan.of F)
    (hpeak : (Scan.of frames).peak read ≤ levels) :
    Exceeds levels frames (read ++ before) place ↔ Exceeds levels F before place := by
  constructor
  · rintro ⟨hshallow, hopens⟩
    rw [peak_append, hrun, max_le_iff] at hshallow
    rw [run_append, hrun] at hopens
    exact ⟨hshallow.2, hopens⟩
  · rintro ⟨hshallow, hopens⟩
    refine ⟨?_, ?_⟩
    · rw [peak_append, hrun, max_le_iff]
      exact ⟨hpeak, hshallow⟩
    · rwa [run_append, hrun]

theorem idle {blanks : List Char} (hb : Idle blanks) (h : Exceeds levels frames before place)
    (rest : List Char) : Exceeds levels frames (blanks ++ before) (place ++ rest) := by
  refine (append_iff (hb.run rfl) ((hb.peak _).trans_le h.length_le)).2 ⟨h.shallow, ?_⟩
  obtain ⟨F, hF, ⟨c, r, rfl, hover⟩ | ⟨G, r, hG, rfl, hover⟩⟩ := h.opens
  · exact ⟨F, hF, .inl ⟨c, r ++ rest, rfl, hover⟩⟩
  · exact ⟨F, hF, .inr ⟨G, r ++ rest, hG, rfl, hover⟩⟩

end Exceeds

section Steps

variable {levels : Nat} {frames : List Frame} {c : Char} {rest place before : List Char}

/-- The place is where the escape begins, or behind what is escaped. -/
theorem Exceeds.escape_cases (h : Exceeds levels (.text :: frames) before place)
    (hs : '\\' :: c :: rest = before ++ place) :
    before = [] ∨ ∃ tail, before = '\\' :: c :: tail ∧ rest = tail ++ place := by
  cases before with
  | nil => exact .inl rfl
  | cons b before =>
    obtain ⟨rfl, hs'⟩ := List.cons.inj hs
    cases before with
    | nil => cases h.not_escaped
    | cons d tail =>
      obtain ⟨rfl, hrest⟩ := List.cons.inj hs'
      exact .inr ⟨tail, rfl, hrest⟩

theorem exists_exceeds_escape (h : (afterEscape (.text :: frames) c).length ≤ levels) :
    (∃ before, '\\' :: c :: rest = before ++ place ∧ Exceeds levels (.text :: frames) before place) ↔
      ∃ before, rest = before ++ place ∧ Exceeds levels (afterEscape (.text :: frames) c) before place := by
  have hframes : (Frame.text :: frames).length ≤ (afterEscape (.text :: frames) c).length := by
    unfold afterEscape
    split <;> simp
  have hrun : (Scan.of (.text :: frames)).run ['\\', c] = Scan.of (afterEscape (.text :: frames) c) := rfl
  have hpeak : (Scan.of (.text :: frames)).peak ['\\', c] ≤ levels := by
    simp only [Scan.peak, Scan.next_backslash, Scan.next_escaped, max_le_iff]
    omega
  constructor
  · rintro ⟨before, hs, hexceeds⟩
    rcases hexceeds.escape_cases hs with rfl | ⟨tail, rfl, hrest⟩
    · -- Neither the backslash nor the interpolation opens too much.
      obtain ⟨F, hF, hover⟩ := hexceeds.opens
      obtain rfl : Frame.text :: frames = F := congrArg Scan.frames hF
      rw [List.nil_append] at hs
      rcases hover with ⟨d, r, hplace, hover⟩ | ⟨G, r, -, hplace, hover⟩
      · obtain ⟨rfl, -⟩ := List.cons.inj (hs.trans hplace)
        have hsame : after (.text :: frames) '\\' = .text :: frames := rfl
        rw [hsame] at hover
        omega
      · obtain ⟨-, htail⟩ := List.cons.inj (hs.trans hplace)
        obtain ⟨rfl, -⟩ := List.cons.inj htail
        have hopened : afterEscape (.text :: frames) '(' = .group :: .text :: frames := rfl
        rw [hopened, List.length_cons] at h
        omega
    · exact ⟨tail, hrest, (Exceeds.append_iff hrun hpeak).1 hexceeds⟩
  · rintro ⟨before, rfl, hexceeds⟩
    exact ⟨'\\' :: c :: before, rfl, (Exceeds.append_iff hrun hpeak).2 hexceeds⟩

theorem exists_exceeds_plain (hplain : ∀ f d t, frames = .text :: f → c = '\\' → rest = d :: t → False)
    (hframes : frames.length ≤ levels) (h : (after frames c).length ≤ levels) :
    (∃ before, c :: rest = before ++ place ∧ Exceeds levels frames before place) ↔
      ∃ before, rest = before ++ place ∧ Exceeds levels (after frames c) before place := by
  have hnext : rest ≠ [] → (Scan.of frames).run [c] = Scan.of (after frames c) := by
    intro hne
    refine Scan.next_of fun hf hc => ?_
    obtain ⟨f, rfl⟩ : ∃ f, frames = .text :: f := List.head?_eq_some_iff.1 hf
    obtain ⟨d, t, rfl⟩ := List.exists_cons_of_ne_nil hne
    exact hplain f d t rfl hc rfl
  have hpeak : rest ≠ [] → (Scan.of frames).peak [c] ≤ levels := by
    intro hne
    have hstep : (Scan.of frames).next c = Scan.of (after frames c) := hnext hne
    simp only [Scan.peak, hstep, max_le_iff]
    exact ⟨hframes, h⟩
  constructor
  · rintro ⟨before, hs, hexceeds⟩
    cases before with
    | nil =>
      obtain ⟨F, hF, hover⟩ := hexceeds.opens
      obtain rfl : frames = F := congrArg Scan.frames hF
      rw [List.nil_append] at hs
      rcases hover with ⟨d, r, hplace, hover⟩ | ⟨G, r, hG, hplace, -⟩
      · obtain ⟨rfl, -⟩ := List.cons.inj (hs.trans hplace)
        omega
      · obtain ⟨hc, htail⟩ := List.cons.inj (hs.trans hplace)
        exact (hplain G _ _ hG hc htail).elim
    | cons b before =>
      obtain ⟨rfl, hrest⟩ := List.cons.inj hs
      have hne : rest ≠ [] := by simp [hrest, hexceeds.ne_nil]
      exact ⟨before, hrest, (Exceeds.append_iff (hnext hne) (hpeak hne)).1 hexceeds⟩
  · rintro ⟨before, rfl, hexceeds⟩
    have hne : before ++ place ≠ [] := by simp [hexceeds.ne_nil]
    exact ⟨c :: before, rfl, (Exceeds.append_iff (hnext hne) (hpeak hne)).2 hexceeds⟩

theorem exceeds_escape (hframes : (Frame.text :: frames).length ≤ levels)
    (h : levels < (afterEscape (.text :: frames) c).length) : '\\' :: c :: rest = place ↔
      ∃ before, '\\' :: c :: rest = before ++ place ∧ Exceeds levels (.text :: frames) before place := by
  have hc : c = '(' := by
    by_contra hne
    rw [afterEscape, if_neg hne] at h
    omega
  subst hc
  constructor
  · rintro rfl
    exact ⟨[], rfl, hframes, _, rfl, .inr ⟨frames, rest, rfl, rfl, h⟩⟩
  · rintro ⟨before, hs, hexceeds⟩
    rcases hexceeds.escape_cases hs with rfl | ⟨tail, rfl, -⟩
    · exact hs
    · have hpeak : (Scan.of (afterEscape (.text :: frames) '(')).peak tail ≤ levels :=
        (le_max_right _ _).trans ((le_max_right _ _).trans hexceeds.shallow)
      exact absurd ((length_le_peak _ tail).trans hpeak) (Nat.not_le.2 h)

theorem exceeds_plain (hframes : frames.length ≤ levels) (h : levels < (after frames c).length) :
    c :: rest = place ↔
      ∃ before, c :: rest = before ++ place ∧ Exceeds levels frames before place := by
  constructor
  · rintro rfl
    exact ⟨[], rfl, hframes, frames, rfl, .inl ⟨c, rest, rfl, h⟩⟩
  · rintro ⟨before, hs, hexceeds⟩
    cases before with
    | nil => exact hs
    | cons b before =>
      obtain ⟨rfl, -⟩ := List.cons.inj hs
      have hnext : (Scan.of frames).next c = Scan.of (after frames c) := by
        refine Scan.next_of ?_
        rintro hf rfl
        obtain ⟨f, rfl⟩ : ∃ f, frames = .text :: f := List.head?_eq_some_iff.1 hf
        exact absurd h (Nat.not_lt.2 hframes)
      have hpeak : (Scan.of (after frames c)).peak before ≤ levels := by
        rw [← hnext]
        exact (le_max_right _ _).trans hexceeds.shallow
      exact absurd ((length_le_peak _ before).trans hpeak) (Nat.not_le.2 h)

end Steps

/-- The scan stops just where one level too many is opened for the first time. -/
theorem tooDeepAt_eq_some_iff {levels : Nat} {frames : List Frame} {s place : List Char}
    (h : frames.length ≤ levels) : tooDeepAt levels frames s = some place ↔
      ∃ before, s = before ++ place ∧ Exceeds levels frames before place := by
  fun_induction tooDeepAt levels frames s with
  | case1 frames =>
    simp only [reduceCtorEq, false_iff, not_exists, not_and]
    intro before hs hexceeds
    exact hexceeds.ne_nil (List.append_eq_nil_iff.1 hs.symm).2
  | case2 frames c rest opened hdeep =>
    rw [Option.some.injEq]
    exact exceeds_escape h hdeep
  | case3 frames c rest opened hdeep ih =>
    have hopened : opened.length ≤ levels := Nat.not_lt.1 hdeep
    rw [ih hopened]
    exact (exists_exceeds_escape hopened).symm
  | case4 frames c rest hplain opened hdeep =>
    rw [Option.some.injEq]
    exact exceeds_plain h hdeep
  | case5 frames c rest hplain opened hdeep ih =>
    have hopened : opened.length ≤ levels := Nat.not_lt.1 hdeep
    rw [ih hopened]
    exact (exists_exceeds_plain hplain h hopened).symm

end SourceMacros.Nesting

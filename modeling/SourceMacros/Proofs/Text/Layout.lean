import Mathlib.Logic.Relation
import SourceMacros.Expectation
import SourceMacros.Proofs.Text.Trim

/-! Texts that differ in layout alone: in the blanks around the text and at the ends of its lines. They
are the texts that normalization makes the same, `normalize_eq_iff`, so an expectation is met by those texts
that are the expected one but for layout, `expectExpansion_layout`. -/

namespace SourceMacros

namespace Text

def withReturns (t : List Char) : List Char :=
  t.flatMap fun c => if c = '\n' then ['\r', '\n'] else [c]

/-- The text without its blanks. -/
def inked (t : List Char) : List Char := t.filter (!isBlank ·)

/-- The lines of a text, each with a line feed at its end that a carriage return may come before. What
follows the last line feed is a line if there is anything. -/
def endedLines : List Char → List (List Char)
  | [] => []
  | '\n' :: s => [] :: endedLines s
  | '\r' :: '\n' :: s => [] :: endedLines s
  | c :: s =>
    match endedLines s with
    | line :: others => (c :: line) :: others
    | [] => [[c]]

/-- One change of layout. -/
inductive Relaid : List Char → List Char → Prop
  | around {b b' : List Char} (t : List Char) (hb : Blank b) (hb' : Blank b') : Relaid t (b ++ (t ++ b'))
  | atLineEnd {b : List Char} (u v : List Char) (hb : Blank b) (hline : '\n' ∉ b) :
    Relaid (u ++ '\n' :: v) (u ++ (b ++ '\n' :: v))
  | returns (t : List Char) : Relaid t (withReturns t)

section Trimming

variable {b b' u v : List Char}

theorem trimEnd_append_blank (hb : Blank b) (s : List Char) : trimEnd (s ++ b) = trimEnd s := by
  have hreverse : ∀ c ∈ b.reverse, isBlank c = true := fun c hc => hb c (List.mem_reverse.1 hc)
  rw [trimEnd, List.reverse_append, List.dropWhile_append_of_pos hreverse, trimEnd]

theorem trimEnd_blank (hb : Blank b) : trimEnd b = [] := trimEnd_append_blank hb []

theorem trimEnd_append_trimEnd (u s : List Char) : trimEnd (u ++ trimEnd s) = trimEnd (u ++ s) := by
  obtain ⟨b, hb, hs, -⟩ := exists_trimEnd s
  conv_rhs => rw [hs, ← List.append_assoc, trimEnd_append_blank hb]

theorem trimStart_append_of_not_blank (hu : ¬ Blank u) (s : List Char) :
    trimStart (u ++ s) = trimStart u ++ s := by
  have hne : ¬ (u.dropWhile isBlank).isEmpty = true := by
    rwa [List.isEmpty_iff, List.dropWhile_eq_nil_iff]
  rw [trimStart, List.dropWhile_append, if_neg hne, trimStart]

theorem trimEnd_append_of_not_blank (hv : ¬ Blank v) (s : List Char) :
    trimEnd (s ++ v) = s ++ trimEnd v := by
  have hreverse : ¬ Blank v.reverse := fun h => hv fun c hc => h c (List.mem_reverse.2 hc)
  have hstart := trimStart_append_of_not_blank hreverse s.reverse
  rw [trimStart, trimStart] at hstart
  rw [trimEnd, List.reverse_append, hstart, List.reverse_append, List.reverse_reverse, trimEnd]

theorem trim_around (t : List Char) (hb : Blank b) (hb' : Blank b') : trim (b ++ (t ++ b')) = trim t := by
  by_cases ht : Blank t
  · rw [trim_eq_nil_iff.2 ht, trim_eq_nil_iff.2 (hb.append (ht.append hb'))]
  · rw [trim, trimStart, List.dropWhile_append_of_pos hb, ← trimStart, trimStart_append_of_not_blank ht,
      trimEnd_append_blank hb', trim]

theorem trim_append_append (hu : ¬ Blank u) (hv : ¬ Blank v) (m : List Char) :
    trim (u ++ (m ++ v)) = trimStart u ++ (m ++ trimEnd v) := by
  rw [trim, trimStart_append_of_not_blank hu, ← List.append_assoc, trimEnd_append_of_not_blank hv,
    List.append_assoc]

end Trimming

section Lines

variable {b s s' : List Char}

theorem lines_eq_splitOn (t : List Char) : lines t = t.splitOn '\n' := by
  induction t with
  | nil => rfl
  | cons c t ih =>
    rw [List.splitOn_cons_eq_if_modifyHead, lines, ih]
    by_cases hc : c = '\n'
    · rw [if_pos hc, if_pos (beq_iff_eq.2 hc)]
    · rw [if_neg hc, if_neg (mt beq_iff_eq.1 hc)]
      cases hlines : t.splitOn '\n' with
      | nil => exact absurd hlines (List.splitOn_ne_nil '\n' t)
      | cons line others => rfl

theorem not_mem_of_mem_lines {t line : List Char} (h : line ∈ lines t) : '\n' ∉ line := by
  induction t generalizing line with
  | nil => simp_all [lines]
  | cons c t ih =>
    rw [lines] at h
    split at h
    case isTrue =>
      rcases List.mem_cons.1 h with rfl | h
      · exact List.not_mem_nil
      · exact ih h
    case isFalse hc =>
      split at h
      case h_1 first others hlines =>
        rcases List.mem_cons.1 h with rfl | h
        · have hfirst := ih (hlines ▸ List.mem_cons_self)
          simpa [Ne.symm hc] using hfirst
        · exact ih (hlines ▸ List.mem_cons_of_mem first h)
      case h_2 hlines =>
        rw [lines_eq_splitOn] at hlines
        exact absurd hlines (List.splitOn_ne_nil '\n' t)

/-- The lines of the text without the blanks at their ends. -/
def bared (t : List Char) : List (List Char) := (lines t).map trimEnd

theorem normalize_eq (t : List Char) : normalize t = ['\n'].intercalate (bared (trim t)) := rfl

theorem bared_append (u v : List Char) : bared (u ++ '\n' :: v) = bared u ++ bared v := by
  simp only [bared, lines_eq_splitOn, List.splitOn_append_cons_self, List.map_append]

theorem bared_newline (s : List Char) : bared ('\n' :: s) = [] :: bared s := by
  simp [bared, lines, trimEnd]

theorem bared_cons {c : Char} (hc : c ≠ '\n') (s : List Char) :
    bared (c :: s) = (bared s).modifyHead fun line => trimEnd (c :: line) := by
  rw [bared, lines_eq_splitOn, List.splitOn_cons_eq_if_modifyHead, if_neg (mt beq_iff_eq.1 hc), bared,
    lines_eq_splitOn]
  cases s.splitOn '\n' with
  | nil => rfl
  | cons line others =>
    have hline : trimEnd (c :: trimEnd line) = trimEnd (c :: line) := trimEnd_append_trimEnd [c] line
    simp only [List.modifyHead_cons, List.map_cons, hline]

theorem bared_cons_congr {c : Char} (h : bared s = bared s') : bared (c :: s) = bared (c :: s') := by
  by_cases hc : c = '\n'
  · rw [hc, bared_newline, bared_newline, h]
  · rw [bared_cons hc, bared_cons hc, h]

theorem bared_append_blank (hb : Blank b) (hline : '\n' ∉ b) (s : List Char) : bared (s ++ b) = bared s := by
  induction s with
  | nil =>
    have hlines : lines b = [b] := by rw [lines_eq_splitOn, List.splitOn_eq_singleton hline]
    rw [List.nil_append, bared, hlines, List.map_singleton, trimEnd_blank hb]
    rfl
  | cons c s ih => exact bared_cons_congr ih

theorem bared_withReturns (t : List Char) : bared (withReturns t) = bared t := by
  induction t with
  | nil => rfl
  | cons c t ih =>
    by_cases hc : c = '\n'
    · subst hc
      change bared (['\r'] ++ '\n' :: withReturns t) = _
      rw [bared_append, ih, bared_newline]
      rfl
    · have hcons : withReturns (c :: t) = c :: withReturns t := by simp [withReturns, hc]
      rw [hcons]
      exact bared_cons_congr ih

theorem lines_normalize (t : List Char) : lines (normalize t) = bared (trim t) := by
  have hline : ∀ line ∈ bared (trim t), '\n' ∉ line := by
    intro line hmem
    obtain ⟨full, hfull, rfl⟩ := List.mem_map.1 hmem
    obtain ⟨b, -, hsplit, -⟩ := exists_trimEnd full
    exact fun hc => not_mem_of_mem_lines hfull (hsplit ▸ List.mem_append_left b hc)
  have hne : bared (trim t) ≠ [] := by
    rw [bared, lines_eq_splitOn, Ne, List.map_eq_nil_iff]
    exact List.splitOn_ne_nil '\n' _
  rw [lines_eq_splitOn, normalize_eq, List.splitOn_intercalate '\n' hline hne]

theorem map_trimEnd_endedLines {t : List Char} (hne : t ≠ []) (hended : Ended t) :
    (endedLines t).map trimEnd = bared t := by
  fun_induction endedLines t with
  | case1 => exact absurd rfl hne
  | case2 s ih =>
    have hs : s ≠ [] := by
      rintro rfl
      exact absurd (hended [] '\n' rfl) (by decide)
    rw [bared_newline, List.map_cons, ih hs (Ended.of_append (s := ['\n']) hended)]
    rfl
  | case3 s ih =>
    have hs : s ≠ [] := by
      rintro rfl
      exact absurd (hended ['\r'] '\n' rfl) (by decide)
    have hreturn : bared ('\r' :: '\n' :: s) = [] :: bared s := bared_append ['\r'] s
    rw [hreturn, List.map_cons, ih hs (Ended.of_append (s := ['\r', '\n']) hended)]
    rfl
  | case4 c s hnewline hreturn line others hlines ih =>
    have hs : s ≠ [] := by
      rintro rfl
      cases hlines
    have hmap := ih hs (Ended.of_append (s := [c]) hended)
    rw [hlines, List.map_cons] at hmap
    have hline : trimEnd (c :: trimEnd line) = trimEnd (c :: line) := trimEnd_append_trimEnd [c] line
    rw [bared_cons (by simpa using hnewline), ← hmap, List.modifyHead_cons, List.map_cons, hline]
  | case5 c s hnewline hreturn hlines ih =>
    cases s with
    | nil =>
      rw [bared_cons (by simpa using hnewline)]
      rfl
    | cons d s =>
      have hmap := ih (List.cons_ne_nil d s) (Ended.of_append (s := [c]) hended)
      rw [hlines, bared, lines_eq_splitOn] at hmap
      exact absurd (List.map_eq_nil_iff.1 hmap.symm) (List.splitOn_ne_nil '\n' _)

theorem normalize_eq_endedLines (t : List Char) :
    normalize t = ['\n'].intercalate ((endedLines (trim t)).map trimEnd) := by
  by_cases hne : trim t = []
  · rw [normalize_eq, hne]
    rfl
  · rw [normalize_eq, map_trimEnd_endedLines hne (trimmed_trim t).ended]

end Lines

section Layout

variable {a b t t' : List Char}

theorem withReturns_append (u v : List Char) : withReturns (u ++ v) = withReturns u ++ withReturns v :=
  List.flatMap_append

theorem blank_withReturns (hb : Blank b) : Blank (withReturns b) := by
  intro c hc
  obtain ⟨d, hd, hcd⟩ := List.mem_flatMap.1 hc
  split at hcd
  · rcases List.mem_pair.1 hcd with rfl | rfl <;> decide
  · rw [List.mem_singleton.1 hcd]
    exact hb d hd

theorem withReturns_of_not_blank {c : Char} (hc : isBlank c = false) : withReturns [c] = [c] := by
  have hne : c ≠ '\n' := by
    rintro rfl
    cases hc
  simp [withReturns, hne]

theorem trimmed_withReturns (ht : Trimmed t) : Trimmed (withReturns t) := by
  constructor
  · intro c hc
    cases t with
    | nil => cases hc
    | cons d t =>
      have hd : isBlank d = false := ht.head d rfl
      rw [← List.singleton_append, withReturns_append, withReturns_of_not_blank hd] at hc
      obtain rfl : d = c := Option.some.inj hc
      exact hd
  · rcases List.eq_nil_or_concat t with rfl | ⟨u, d, rfl⟩
    · intro u c h
      simp [withReturns] at h
    · have hd : isBlank d = false := ht.ended u d List.concat_eq_append
      rw [List.concat_eq_append, withReturns_append, withReturns_of_not_blank hd]
      exact ended_append_singleton _ hd

theorem trim_withReturns (t : List Char) : trim (withReturns t) = withReturns (trim t) := by
  obtain ⟨b, b', hb, hb', ht, htrimmed⟩ := exists_trim t
  conv_lhs => rw [ht, withReturns_append, withReturns_append]
  rw [trim_around _ (blank_withReturns hb) (blank_withReturns hb'), (trimmed_withReturns htrimmed).trim_self]

/-- Blanks at the end of a line are trimmed with the text, or stand at the end of a line of what is left. -/
theorem trim_atLineEnd (u v : List Char) (hb : Blank b) :
    trim (u ++ (b ++ '\n' :: v)) = trim (u ++ '\n' :: v) ∨
      ∃ u' v', trim (u ++ (b ++ '\n' :: v)) = u' ++ (b ++ '\n' :: v') ∧
        trim (u ++ '\n' :: v) = u' ++ '\n' :: v' := by
  have hline : Blank ['\n'] := by
    intro c hc
    rw [List.mem_singleton.1 hc]
    decide
  by_cases hu : Blank u
  · have hpadded := trim_around v (hu.append (hb.append hline)) Blank.nil
    have hplain := trim_around v (hu.append hline) Blank.nil
    exact .inl (by simpa using hpadded.trans hplain.symm)
  by_cases hv : Blank v
  · have hpadded := trim_around u Blank.nil (hb.append (hline.append hv))
    have hplain := trim_around u Blank.nil (hline.append hv)
    exact .inl (by simpa using hpadded.trans hplain.symm)
  · have hpadded := trim_append_append hu hv (b ++ ['\n'])
    have hplain := trim_append_append hu hv ['\n']
    exact .inr ⟨trimStart u, trimEnd v, by simpa using hpadded, by simpa using hplain⟩

theorem normalize_around (t : List Char) {b b' : List Char} (hb : Blank b) (hb' : Blank b') :
    normalize (b ++ (t ++ b')) = normalize t := by
  rw [normalize_eq, trim_around t hb hb', normalize_eq]

theorem normalize_atLineEnd (u v : List Char) (hb : Blank b) (hline : '\n' ∉ b) :
    normalize (u ++ (b ++ '\n' :: v)) = normalize (u ++ '\n' :: v) := by
  rw [normalize_eq, normalize_eq]
  rcases trim_atLineEnd u v hb with htrim | ⟨u', v', hpadded, hplain⟩
  · rw [htrim]
  · rw [hpadded, hplain, ← List.append_assoc, bared_append, bared_append, bared_append_blank hb hline]

theorem normalize_withReturns (t : List Char) : normalize (withReturns t) = normalize t := by
  rw [normalize_eq, trim_withReturns, bared_withReturns, normalize_eq]

/-- A change of layout is not seen in the normalized text. -/
theorem Relaid.normalize_eq (h : Relaid t t') : normalize t = normalize t' := by
  cases h with
  | around _ hb hb' => exact (normalize_around t hb hb').symm
  | atLineEnd u v hb hline => exact (normalize_atLineEnd u v hb hline).symm
  | returns => exact (normalize_withReturns t).symm

theorem inked_append (u v : List Char) : inked (u ++ v) = inked u ++ inked v := List.filter_append u v

theorem inked_blank (hb : Blank b) : inked b = [] := List.filter_eq_nil_iff.2 fun c hc => by simp [hb c hc]

theorem inked_withReturns (t : List Char) : inked (withReturns t) = inked t := by
  induction t with
  | nil => rfl
  | cons c t ih =>
    have hone : inked (withReturns [c]) = inked [c] := by
      by_cases hc : c = '\n'
      · subst hc
        decide
      · simp [withReturns, hc]
    rw [← List.singleton_append, withReturns_append, inked_append, inked_append, hone, ih]

theorem Relaid.inked_eq (h : Relaid t t') : inked t = inked t' := by
  cases h with
  | around _ hb hb' => simp [inked_append, inked_blank hb, inked_blank hb']
  | atLineEnd u v hb hline => simp [inked_append, inked_blank hb]
  | returns => exact (inked_withReturns t).symm

/-- The lines of a text are had again from the bared ones by blanks at the end of each. -/
theorem eqvGen_intercalate (ls : List (List Char)) (hls : ∀ line ∈ ls, '\n' ∉ line) (u : List Char) :
    Relation.EqvGen Relaid (u ++ ['\n'].intercalate (ls.map trimEnd)) (u ++ ['\n'].intercalate ls) := by
  induction ls generalizing u with
  | nil => exact .refl _
  | cons line others ih =>
    obtain ⟨hline, hothers⟩ := List.forall_mem_cons.1 hls
    obtain ⟨b, hb, hsplit, -⟩ := exists_trimEnd line
    cases others with
    | nil =>
      have hlast := Relaid.around (u ++ trimEnd line) Blank.nil hb
      rw [List.nil_append, List.append_assoc, ← hsplit] at hlast
      simpa using Relation.EqvGen.rel _ _ hlast
    | cons next others =>
      have hb' : '\n' ∉ b := fun hc => hline (hsplit ▸ List.mem_append_right _ hc)
      have hrest := ih hothers (u ++ (trimEnd line ++ ['\n']))
      have hpad : Relaid (u ++ (trimEnd line ++ '\n' :: ['\n'].intercalate (next :: others)))
          (u ++ (line ++ '\n' :: ['\n'].intercalate (next :: others))) := by
        have hends := Relaid.atLineEnd (u ++ trimEnd line) (['\n'].intercalate (next :: others)) hb hb'
        generalize trimEnd line = core at hsplit hends ⊢
        subst hsplit
        simpa only [List.append_assoc] using hends
      simp only [List.map_cons, List.intercalate_cons_cons, List.append_assoc, List.singleton_append] at hrest ⊢
      exact hrest.trans _ _ _ (.rel _ _ hpad)

theorem eqvGen_normalize (t : List Char) : Relation.EqvGen Relaid (normalize t) t := by
  obtain ⟨b, b', hb, hb', ht, -⟩ := exists_trim t
  have hlines := eqvGen_intercalate (lines (trim t)) (fun _ h => not_mem_of_mem_lines h) []
  rw [lines_eq_splitOn, List.intercalate_splitOn, ← lines_eq_splitOn] at hlines
  have haround := Relaid.around (trim t) hb hb'
  rw [← ht] at haround
  exact hlines.trans _ _ _ (.rel _ _ haround)

/-- Normalization makes those texts the same that differ in layout alone. -/
theorem normalize_eq_iff : normalize t = normalize t' ↔ Relation.EqvGen Relaid t t' := by
  constructor
  · intro h
    have ht := eqvGen_normalize t
    rw [h] at ht
    exact (ht.symm).trans _ _ _ (eqvGen_normalize t')
  · intro h
    induction h with
    | rel t t' h => exact h.normalize_eq
    | refl t => rfl
    | symm t t' _ ih => exact ih.symm
    | trans t t' t'' _ _ ih ih' => exact ih.trans ih'

theorem inked_eq_of_eqvGen (h : Relation.EqvGen Relaid t t') : inked t = inked t' := by
  induction h with
  | rel t t' h => exact h.inked_eq
  | refl t => rfl
  | symm t t' _ ih => exact ih.symm
  | trans t t' t'' _ _ ih ih' => exact ih.trans ih'

theorem normalize_normalize (t : List Char) : normalize (normalize t) = normalize t :=
  normalize_eq_iff.2 (eqvGen_normalize t)

theorem length_lines_trim (t : List Char) : (lines (trim t)).length = (lines (normalize t)).length := by
  rw [lines_normalize, bared, List.length_map]

end Layout

end Text

namespace Registry

open Text

/-- Normalization trims the text and the ends of its lines, and nothing else. Two texts have the same result
just where they differ in such blanks alone, and so an expectation forgives just these. -/
theorem expectExpansion_layout :
    (∀ t, normalize t = ['\n'].intercalate ((endedLines (trim t)).map trimEnd)) ∧
    (∀ t, normalize (normalize t) = normalize t) ∧
    (∀ t, normalize (withReturns t) = normalize t) ∧
    (∀ t b b', Blank b → Blank b' → normalize (b ++ (t ++ b')) = normalize t) ∧
    (∀ u v b e, Blank (b ++ e) → '\n' ∉ b ++ e →
      normalize (u ++ (b ++ (e ++ '\n' :: v))) = normalize (u ++ (e ++ '\n' :: v))) ∧
    (∀ t t', normalize t = normalize t' →
      inked t = inked t' ∧ (lines (trim t)).length = (lines (trim t')).length) ∧
    (∀ t t', normalize t = normalize t' ↔ Relation.EqvGen Relaid t t') ∧
    ∀ (r : Registry) (context : Context) (source expected : String),
      (r.expectExpansion context source expected = .ok () ↔
        ∃ actual, (r.expandSource source context).result = .ok actual ∧
          Relation.EqvGen Relaid actual.toList expected.toList) ∧
      (r.expectExpansion context source expected = .error .differs ↔
        ∃ actual, (r.expandSource source context).result = .ok actual ∧
          ¬ Relation.EqvGen Relaid actual.toList expected.toList) := by
  refine ⟨normalize_eq_endedLines, normalize_normalize, normalize_withReturns,
    fun t b b' hb hb' => normalize_around t hb hb', fun u v b e hblank hline => ?_, fun t t' h => ?_,
    fun t t' => normalize_eq_iff, fun r context source expected => ?_⟩
  · have he : Blank e := fun c hc => hblank c (List.mem_append_right b hc)
    have hline' : '\n' ∉ e := fun hc => hline (List.mem_append_right b hc)
    rw [← List.append_assoc b, normalize_atLineEnd u v hblank hline, normalize_atLineEnd u v he hline']
  · exact ⟨inked_eq_of_eqvGen (normalize_eq_iff.1 h), by rw [length_lines_trim, length_lines_trim, h]⟩
  · rw [expectExpansion]
    cases hresult : (r.expandSource source context).result with
    | ok actual =>
      by_cases hsame : normalize actual.toList = normalize expected.toList
      · simp [hsame, ← normalize_eq_iff]
      · simp [hsame, ← normalize_eq_iff]
    | error error => simp

/-- Blanks of other kinds than the space, around a text and at the ends of its lines, and an expectation that is met
but for them and one that is missed. -/
theorem expectExpansion_layout_samples :
    normalize "a\u2003\x0d\nb".toList = normalize "a\x0d\nb".toList ∧
    normalize "\n\u00a0a\nb\x0b".toList = normalize "a\nb".toList ∧
    inked "a \nb".toList = inked "a\x0d\nb".toList ∧
    standard.expectExpansion {} "#doubleValue(10)" "\x0d\nDouble(10)\t" = .ok () ∧
    standard.expectExpansion {} "#doubleValue(10)" "Double( 10)" = .error .differs := by
  have hblank : ∀ {b : List Char}, b.all isBlank = true → Blank b := List.all_eq_true.1
  have hresult : (standard.expandSource "#doubleValue(10)" {}).result = .ok "Double(10)" := by decide +kernel
  obtain ⟨-, -, -, haround, hline, hkept, hiff, hexpect⟩ := expectExpansion_layout
  refine ⟨hline ['a'] ['b'] ['\u2003'] ['\x0d'] (hblank (by decide)) (by decide),
    haround "a\nb".toList ['\n', '\u00a0'] ['\x0b'] (hblank (by decide)) (hblank (by decide)),
    (hkept "a \nb".toList "a\x0d\nb".toList (by decide)).1, ?_, ?_⟩
  · have hlead : Blank ['\x0d', '\n'] := hblank (by decide)
    have htab : Blank ['\t'] := hblank (by decide)
    have hlayout : Relaid "Double(10)".toList "\x0d\nDouble(10)\t".toList := .around _ hlead htab
    exact (hexpect standard {} _ _).1.2 ⟨_, hresult, .rel _ _ hlayout⟩
  · refine (hexpect standard {} _ _).2.2 ⟨_, hresult, fun hsame => ?_⟩
    exact absurd ((hiff _ _).2 hsame) (by decide)

end Registry

end SourceMacros

import SourceMacros.Proofs.Expression.Parted
import SourceMacros.Proofs.Nesting.Scan

/-! Where verbatim reading stops. It stops behind a text just where the text is sealed for a scan to which
literals have no interpolations, `splitVerbatim_eq_iff_sealed`. A text that is sealed for the scan that has
them is taken whole unless a literal begins in one, and then it may be cut in there,
`verbatim_of_sealed`. -/

namespace SourceMacros

open Text Reader

/-- A character that parts expressions or closes a bracket. -/
def Reader.breaks (c : Char) : Bool := isDelimiter c || Nesting.isCloser c

namespace Nesting.Scan

/-- The scan in which a literal is over at the first quote that is not escaped. -/
def nextFlat (q : Scan) (c : Char) : Scan :=
  if q.escaped then of q.frames
  else if q.frames.head? = some .text ∧ c = '\\' then ⟨q.frames, true⟩
  else of (after q.frames c)

/-- The scan closes what it opens and no more, and where nothing is open, nothing parts expressions. -/
def Sealed (step : Scan → Char → Scan) : Scan → List Char → Prop
  | q, [] => q.frames = []
  | q, c :: s => (q.frames = [] → breaks c = false) ∧ Sealed step (step q c) s

instance decidableSealed (step : Scan → Char → Scan) : (q : Scan) → (s : List Char) →
    Decidable (Sealed step q s)
  | q, [] => inferInstanceAs (Decidable (q.frames = []))
  | q, c :: s =>
    have := decidableSealed step (step q c) s
    inferInstanceAs (Decidable ((q.frames = [] → breaks c = false) ∧ Sealed step (step q c) s))

/-- The scan is in the brackets of an interpolation. -/
def Interpolated (q : Scan) : Prop := q.frames.head? = some .group ∧ .text ∈ q.frames

instance (q : Scan) : Decidable q.Interpolated :=
  inferInstanceAs (Decidable (q.frames.head? = some .group ∧ .text ∈ q.frames))

/-- No literal begins in an interpolation. -/
def Unquoted : Scan → List Char → Prop
  | _, [] => True
  | q, c :: s => (q.Interpolated → c ≠ '"') ∧ Unquoted (q.next c) s

instance decidableUnquoted : (q : Scan) → (s : List Char) → Decidable (Unquoted q s)
  | _, [] => inferInstanceAs (Decidable True)
  | q, c :: s =>
    have := decidableUnquoted (q.next c) s
    inferInstanceAs (Decidable ((q.Interpolated → c ≠ '"') ∧ Unquoted (q.next c) s))

end Nesting.Scan

namespace Reader

open Nesting Scan

/-- What is open for the flat scan at a depth and in a quoting of verbatim reading. -/
def scanAt : Nat → Quoting → Scan
  | n, .outside => of (List.replicate n .group)
  | n, .inside => of (.text :: List.replicate n .group)
  | n, .escaped => ⟨.text :: List.replicate n .group, true⟩

variable {n m : Nat} {p p' : Quoting} {c : Char} {t rest : List Char}

theorem frames_scanAt_eq_nil : (scanAt n p).frames = [] ↔ n = 0 ∧ p = .outside := by
  cases p <;> simp [scanAt]

theorem head?_replicate_group (n : Nat) : (List.replicate n Frame.group).head? ≠ some .text := by
  cases n <;> simp [List.replicate_succ]

theorem after_replicate (n : Nat) (c : Char) :
    after (List.replicate n .group) c = if c = '"' then .text :: List.replicate n .group
      else List.replicate (if isOpener c then n + 1 else if isCloser c then n - 1 else n) .group := by
  have hhead := head?_replicate_group n
  by_cases hquote : c = '"'
  · subst hquote
    unfold after
    split
    case h_1 heq => exact absurd (by rw [heq]; rfl) hhead
    case h_2 => rfl
  rw [if_neg hquote]
  by_cases hopen : isOpener c = true
  · rw [after_eq_of_opener hhead hopen, if_pos hopen]
    rfl
  by_cases hclose : isCloser c = true
  · rw [after_eq_of_closer hhead hclose, if_neg hopen, if_pos hclose, List.tail_replicate]
  · rw [after_eq_of_quiet hhead (by simp [isQuiet, hquote, hopen, hclose]), if_neg hopen, if_neg hclose]

theorem takes_eq_none_iff : takes n p c = none ↔ (scanAt n p).frames = [] ∧ breaks c = true := by
  rw [frames_scanAt_eq_nil]
  cases p with
  | outside =>
    have htakes : takes n .outside c = none ↔ (decide (n = 0) && breaks c) = true := by
      simp only [takes, breaks]
      split <;> simp_all
    rw [htakes, Bool.and_eq_true, decide_eq_true_iff, and_iff_left rfl]
  | inside => simp [takes]
  | escaped => simp [takes]

theorem exists_takes (hc : (scanAt n p).frames = [] → breaks c = false) :
    ∃ m p', takes n p c = some (m, p') := by
  cases h : takes n p c with
  | none =>
    obtain ⟨hnil, hbreaks⟩ := takes_eq_none_iff.1 h
    rw [hc hnil] at hbreaks
    cases hbreaks
  | some state => exact ⟨state.1, state.2, rfl⟩

theorem not_breaks_of_takes (h : takes n p c = some (m, p')) (hnil : (scanAt n p).frames = []) :
    breaks c = false := by
  by_contra hbreaks
  rw [takes_eq_none_iff.2 ⟨hnil, by simpa using hbreaks⟩] at h
  cases h

theorem takes_outside (hc : n = 0 → breaks c = false) : takes n .outside c = some
    (if isOpener c then n + 1 else if isCloser c then n - 1 else n,
      if c = '"' then .inside else .outside) := by
  have hgoes : ¬ (decide (n = 0) && breaks c) = true := by
    rw [Bool.and_eq_true, decide_eq_true_iff]
    rintro ⟨hn, hbreaks⟩
    rw [hc hn] at hbreaks
    cases hbreaks
  exact if_neg hgoes

theorem nextFlat_scanAt (h : takes n p c = some (m, p')) : (scanAt n p).nextFlat c = scanAt m p' := by
  cases p with
  | outside =>
    have hc : n = 0 → breaks c = false := fun hn =>
      not_breaks_of_takes h (frames_scanAt_eq_nil.2 ⟨hn, rfl⟩)
    rw [takes_outside hc] at h
    obtain ⟨rfl, rfl⟩ := Prod.mk.inj (Option.some.inj h)
    have hnext : (scanAt n .outside).nextFlat c = of (after (List.replicate n .group) c) := by
      simp [nextFlat, scanAt, head?_replicate_group]
    rw [hnext, after_replicate n c]
    split
    case isTrue hquote =>
      subst hquote
      rfl
    case isFalse => rfl
  | inside =>
    obtain ⟨rfl, rfl⟩ := Prod.mk.inj (Option.some.inj h)
    by_cases hescape : c = '\\'
    · subst hescape
      rfl
    · by_cases hquote : c = '"' <;> simp [nextFlat, scanAt, after, hescape, hquote]
  | escaped =>
    obtain ⟨rfl, rfl⟩ := Prod.mk.inj (Option.some.inj h)
    rfl

/-- Verbatim reading takes a text and stops behind it, whatever stops it there, just where the text is sealed
for the flat scan. -/
theorem splitVerbatim_eq_iff_sealed_scanAt :
    (∀ rest, Stops rest → splitVerbatim n p (t ++ rest) = (t, rest)) ↔
      Sealed nextFlat (scanAt n p) t := by
  induction t generalizing n p with
  | nil =>
    rw [Sealed, frames_scanAt_eq_nil]
    constructor
    · exact fun h => splitVerbatim_stop (h [','] (stops_cons (by decide)))
    · rintro ⟨rfl, rfl⟩
      exact fun _ => splitVerbatim_stops
  | cons c t ih =>
    simp only [List.cons_append, splitVerbatim_cons_eq]
    constructor
    · intro h
      obtain ⟨m, p', htakes, -⟩ := h [] stops_nil
      refine ⟨not_breaks_of_takes htakes, ?_⟩
      rw [nextFlat_scanAt htakes, ← ih]
      intro rest hrest
      obtain ⟨_, _, htakes', hsplit⟩ := h rest hrest
      obtain ⟨rfl, rfl⟩ := Prod.mk.inj (Option.some.inj (htakes.symm.trans htakes'))
      exact hsplit
    · rintro ⟨hgoes, hs⟩ rest hrest
      obtain ⟨m, p', htakes⟩ := exists_takes hgoes
      rw [nextFlat_scanAt htakes, ← ih] at hs
      exact ⟨m, p', htakes, hs rest hrest⟩

theorem splitVerbatim_eq_iff_sealed :
    (∀ rest, Stops rest → splitVerbatim 0 .outside (t ++ rest) = (t, rest)) ↔
      Sealed nextFlat (of []) t :=
  splitVerbatim_eq_iff_sealed_scanAt

/-- What the scan of interpolations has open where verbatim reading is at a depth and in a quoting: the
same, or else brackets of an interpolation in the literal. -/
inductive Follows : Scan → Nat → Quoting → Prop
  | outside (n : Nat) : Follows (of (List.replicate n .group)) n .outside
  | inside (n : Nat) : Follows (of (.text :: List.replicate n .group)) n .inside
  | escaped (n : Nat) : Follows ⟨.text :: List.replicate n .group, true⟩ n .escaped
  | interpolation (k n : Nat) {p : Quoting} (h : p ≠ .outside) :
    Follows (of (List.replicate (k + 1) .group ++ .text :: List.replicate n .group)) n p

variable {q : Scan}

theorem Follows.next_outside (hc : n = 0 → breaks c = false) :
    ∃ m p', takes n .outside c = some (m, p') ∧ Follows ((of (List.replicate n .group)).next c) m p' := by
  refine ⟨_, _, takes_outside hc, ?_⟩
  rw [next_of fun h => absurd h (head?_replicate_group n), after_replicate n c]
  by_cases hquote : c = '"'
  · subst hquote
    exact .inside n
  · rw [if_neg hquote, if_neg hquote]
    exact .outside _

theorem Follows.next_interpolation (k : Nat) (hp : p ≠ .outside) (hquote : c ≠ '"') :
    ∃ p', takes n p c = some (n, p') ∧
      Follows ((of (List.replicate (k + 1) .group ++ .text :: List.replicate n .group)).next c) n p' := by
  have hhead : (List.replicate (k + 1) Frame.group ++ Frame.text :: List.replicate n .group).head? ≠
      some .text := by
    simp [List.replicate_succ]
  obtain ⟨p', htakes, hp', hplain⟩ :
      ∃ p', takes n p c = some (n, p') ∧ p' ≠ .outside ∧ (c ≠ '\\' → p' = .inside) := by
    cases p with
    | outside => exact absurd rfl hp
    | inside => by_cases hescape : c = '\\' <;> simp [takes, hescape, hquote]
    | escaped => exact ⟨.inside, rfl, by simp, fun _ => rfl⟩
  refine ⟨p', htakes, ?_⟩
  rw [next_of fun h => absurd h hhead]
  by_cases hopen : isOpener c = true
  · rw [after_eq_of_opener hhead hopen]
    exact .interpolation (k + 1) n hp'
  by_cases hclose : isCloser c = true
  · have hescape : c ≠ '\\' := by
      rintro rfl
      exact absurd hclose (by decide)
    rw [after_eq_of_closer hhead hclose]
    cases k with
    | zero =>
      -- The bracket that ends the interpolation ends an escape of verbatim reading as well.
      rw [hplain hescape]
      exact .inside n
    | succ k => exact .interpolation k n hp'
  · rw [after_eq_of_quiet hhead (by simp [isQuiet, hquote, hopen, hclose])]
    exact .interpolation k n hp'

/-- Verbatim reading goes on with the scan over a character that begins no literal in an interpolation. -/
theorem Follows.next (h : Follows q n p) (hc : q.frames = [] → breaks c = false)
    (hquote : q.Interpolated → c ≠ '"') :
    ∃ m p', takes n p c = some (m, p') ∧ Follows (q.next c) m p' := by
  cases h with
  | outside n =>
    refine Follows.next_outside ?_
    rintro rfl
    exact hc rfl
  | inside n =>
    refine ⟨n, _, rfl, ?_⟩
    by_cases hescape : c = '\\'
    · subst hescape
      exact .escaped n
    rw [next_of fun _ => hescape, if_neg hescape]
    by_cases hend : c = '"'
    · subst hend
      exact .outside n
    · rw [if_neg hend, after, if_neg hend]
      exact .inside n
  | escaped n =>
    refine ⟨n, .inside, rfl, ?_⟩
    rw [next_escaped, afterEscape]
    split
    case isTrue => exact .interpolation 0 n (by simp)
    case isFalse => exact .inside n
  | interpolation k n hp =>
    have hin : (of (List.replicate (k + 1) .group ++ .text :: List.replicate n .group)).Interpolated := by
      simp [Interpolated, List.replicate_succ]
    obtain ⟨p', htakes, hnext⟩ := Follows.next_interpolation k hp (hquote hin)
    exact ⟨n, p', htakes, hnext⟩

/-- Where nothing is open for the scan, verbatim reading is outside brackets and quotes. -/
theorem Follows.eq_of_nil (h : Follows q n p) (hnil : q.frames = []) : n = 0 ∧ p = .outside := by
  cases h with
  | outside n => exact ⟨by simpa using hnil, rfl⟩
  | inside n => cases hnil
  | escaped n => cases hnil
  | interpolation k n _ => simp at hnil

theorem Follows.splitVerbatim_eq (h : Follows q n p) (hsealed : Sealed Scan.next q t)
    (hquote : q.Unquoted t) (hrest : Stops rest) : splitVerbatim n p (t ++ rest) = (t, rest) := by
  induction t generalizing q n p with
  | nil =>
    obtain ⟨rfl, rfl⟩ := h.eq_of_nil hsealed
    exact splitVerbatim_stops hrest
  | cons c t ih =>
    obtain ⟨m, p', htakes, hnext⟩ := h.next hsealed.1 hquote.1
    exact splitVerbatim_cons_eq.2 ⟨m, p', htakes, ih hnext hsealed.2 hquote.2⟩

theorem sealed_append_scanAt {s : List Char} (hs : Sealed nextFlat (scanAt n p) s)
    (ht : Sealed nextFlat (of []) t) : Sealed nextFlat (scanAt n p) (s ++ t) := by
  induction s generalizing n p with
  | nil =>
    obtain ⟨rfl, rfl⟩ := frames_scanAt_eq_nil.1 hs
    exact ht
  | cons c s ih =>
    obtain ⟨hgoes, hs⟩ := hs
    obtain ⟨m, p', htakes⟩ := exists_takes hgoes
    rw [nextFlat_scanAt htakes] at hs
    refine ⟨hgoes, ?_⟩
    rw [nextFlat_scanAt htakes]
    exact ih hs

theorem sealed_append {s : List Char} (hs : Sealed nextFlat (of []) s) (ht : Sealed nextFlat (of []) t) :
    Sealed nextFlat (of []) (s ++ t) := sealed_append_scanAt (n := 0) (p := .outside) hs ht

theorem sealed_inside_append {a : List Char} (ha : ∀ c ∈ a, c ≠ '"' ∧ c ≠ '\\') :
    Sealed nextFlat (scanAt n .inside) (a ++ t) ↔ Sealed nextFlat (scanAt n .inside) t := by
  induction a with
  | nil => rfl
  | cons c a ih =>
    obtain ⟨⟨hquote, hescape⟩, ha⟩ := List.forall_mem_cons.1 ha
    have hnext : (scanAt n .inside).nextFlat c = scanAt n .inside :=
      nextFlat_scanAt (by simp [takes, hquote, hescape])
    have hopen : (scanAt n .inside).frames ≠ [] := by simp [scanAt]
    rw [List.cons_append, Sealed, hnext, ih ha]
    exact and_iff_right fun hnil => absurd hnil hopen

/-- For the flat scan a literal is over where one begins in its interpolation. -/
theorem sealed_interpolated {a : List Char} (ha : ∀ c ∈ a, c ≠ '"' ∧ c ≠ '\\') :
    Sealed nextFlat (of []) ('"' :: (a ++ ['\\', '(', '"'])) := by
  have hend : Sealed nextFlat (scanAt 0 .inside) ['\\', '(', '"'] := by decide
  exact ⟨fun _ => by decide, (sealed_inside_append ha).2 hend⟩

theorem splitVerbatim_eq_of_verbatim {e : Expression} (h : verbatim (t ++ rest) = .done e rest) :
    splitVerbatim 0 .outside (t ++ rest) = (t, rest) := by
  have hrest : (splitVerbatim 0 .outside (t ++ rest)).2 = rest := by
    simp only [verbatim] at h
    split at h
    case isTrue => cases h
    case isFalse => exact (Outcome.done.inj h).2
  have hsplit := splitVerbatim_append 0 .outside (t ++ rest)
  rw [hrest] at hsplit
  exact Prod.ext (List.append_cancel_right hsplit) hrest

theorem verbatim_of_splitVerbatim (ht : ¬ Blank t) (h : splitVerbatim 0 .outside (t ++ rest) = (t, rest)) :
    verbatim (t ++ rest) = .done (.other (String.ofList (trim t))) rest := by
  rw [verbatim_eq_done, h, String.toList_ofList]
  exact ⟨trim_ne_nil ht, rfl, rfl⟩

/-- Verbatim reading takes all of a text just where the flat scan finds it sealed. It follows the scan of
interpolations unless a literal begins in one: there a delimiter cuts the text. -/
theorem verbatim_of_sealed (t : List Char) (ht : ¬ Blank t) :
    ((∀ rest, Stops rest → ∃ e, verbatim (t ++ rest) = .done e rest) ↔ Sealed nextFlat (of []) t) ∧
    (Sealed Scan.next (of []) t → (of []).Unquoted t →
      ∀ rest, Stops rest → verbatim (t ++ rest) = .done (.other (String.ofList (trim t))) rest) ∧
    ∀ u a b v k, t = u ++ '"' :: (a ++ '\\' :: '(' :: '"' :: (b ++ k :: v)) →
      Sealed nextFlat (of []) u → (∀ c ∈ a, c ≠ '"' ∧ c ≠ '\\') → Sealed nextFlat (of []) b →
      breaks k = true → ∀ rest, verbatim (t ++ rest) =
        .done (.other (String.ofList (trim (u ++ '"' :: (a ++ '\\' :: '(' :: '"' :: b)))))
          (k :: (v ++ rest)) := by
  refine ⟨⟨fun h => ?_, fun h rest hrest => ?_⟩, fun hsealed hquote rest hrest => ?_, ?_⟩
  · refine splitVerbatim_eq_iff_sealed.1 fun rest hrest => ?_
    obtain ⟨e, he⟩ := h rest hrest
    exact splitVerbatim_eq_of_verbatim he
  · exact ⟨_, verbatim_of_splitVerbatim ht (splitVerbatim_eq_iff_sealed.2 h rest hrest)⟩
  · exact verbatim_of_splitVerbatim ht ((Follows.outside 0).splitVerbatim_eq hsealed hquote hrest)
  · rintro u a b v k rfl hu ha hb hk rest
    have hsealed : Sealed nextFlat (of []) (u ++ '"' :: (a ++ '\\' :: '(' :: '"' :: b)) := by
      simpa using sealed_append hu (sealed_append (sealed_interpolated ha) hb)
    have hblank : ¬ Blank (u ++ '"' :: (a ++ '\\' :: '(' :: '"' :: b)) := by
      intro hblank
      exact absurd (hblank '"' (by simp)) (by decide)
    simpa using verbatim_of_splitVerbatim hblank
      (splitVerbatim_eq_iff_sealed.2 hsealed (k :: (v ++ rest)) (stops_cons hk))

/-- A literal with an interpolation of a literal that holds a comma, and a term behind it. -/
def cutText : List Char := "\"\\(\",\")\" + x".toList

theorem not_blank_cutText : ¬ Blank cutText := fun h => absurd (h '"' (by decide)) (by decide)

/-- Literals with a comma and with an interpolation are taken whole, unless the comma stands in a literal in
the interpolation. -/
theorem verbatim_of_sealed_literal :
    verbatim ("\"a, b\" + \"\\(f[0])\"".toList ++ [')']) =
      .done (.other "\"a, b\" + \"\\(f[0])\"") [')'] ∧
    verbatim (cutText ++ [')']) = .done (.other "\"\\(\"") ",\")\" + x)".toList := by
  have hblank : ¬ Blank "\"a, b\" + \"\\(f[0])\"".toList := fun h => absurd (h '"' (by decide)) (by decide)
  have hwhole := (verbatim_of_sealed _ hblank).2.1 (by decide) (by decide) [')'] (stops_cons (by decide))
  have hcut := (verbatim_of_sealed cutText not_blank_cutText).2.2 [] [] [] "\")\" + x".toList ',' (by decide)
    rfl (by simp) rfl (by decide) [')']
  exact ⟨hwhole, hcut⟩

/-- The text is sealed for the scan of interpolations, and is cut at the comma; as an argument it is read
as two. -/
theorem verbatim_cut : ¬ Blank cutText ∧ Sealed Scan.next (of []) cutText ∧ Stops [')'] ∧
    (¬ ∃ e, verbatim (cutText ++ [')']) = .done e [')']) ∧
    Expression.parse "f(\"\\(\",\")\" + x)" =
      .ok (.callOf "f" [.plain (.other "\"\\(\""), .plain (.other "\")\" + x")]) := by
  refine ⟨not_blank_cutText, by decide, stops_cons (by decide), ?_, by decide +kernel⟩
  rintro ⟨e, he⟩
  exact absurd (splitVerbatim_eq_of_verbatim he) (by decide)

end Reader
end SourceMacros

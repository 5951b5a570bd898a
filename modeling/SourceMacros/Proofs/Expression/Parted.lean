import SourceMacros.Proofs.Expression.Shapes
import SourceMacros.Proofs.Expression.Verbatim

/-! A verbatim text that was read is parted from what follows it where it is written, too,
`Expression.Spelled.parted`: it stops where it stopped before. -/

namespace SourceMacros

open Text Reader

/-- A text that a verbatim part can have: it is not empty and has no blank at either end. -/
structure Kept (text : String) : Prop where
  nonempty : text.toList ≠ []
  trimmed : Trimmed text.toList

/-- Verbatim reading of the text, with what follows it, stops at the end of the text. -/
def Parted (p : String × List Char) : Prop :=
  splitVerbatim 0 .outside (p.1.toList ++ p.2) = (p.1.toList, p.2)

namespace Reader

/-- The depth and the quoting after a character, unless verbatim reading stops before it. -/
def takes : Nat → Quoting → Char → Option (Nat × Quoting)
  | n, .escaped, _ => some (n, .inside)
  | n, .inside, c =>
    some (n, if c = '\\' then .escaped else if c = '"' then .outside else .inside)
  | n, .outside, c =>
    if n = 0 && (isDelimiter c || Nesting.isCloser c) then none
    else some (if Nesting.isOpener c then n + 1 else if Nesting.isCloser c then n - 1 else n,
      if c = '"' then .inside else .outside)

variable {n : Nat} {q : Quoting} {c d : List Char}

theorem splitVerbatim_of_takes (k : Char) (s : List Char) : splitVerbatim n q (k :: s) =
    match takes n q k with
    | none => ([], k :: s)
    | some (m, p) => (k :: (splitVerbatim m p s).1, (splitVerbatim m p s).2) := by
  cases q with
  | outside =>
    simp only [splitVerbatim, takes]
    split <;> rfl
  | inside => rfl
  | escaped => rfl

theorem splitVerbatim_cons_eq {k : Char} {s u : List Char} :
    splitVerbatim n q (k :: s) = (k :: u, c) ↔
      ∃ m p, takes n q k = some (m, p) ∧ splitVerbatim m p s = (u, c) := by
  rw [splitVerbatim_of_takes]
  cases h : takes n q k with
  | none => simp
  | some state =>
    obtain ⟨m, p⟩ := state
    simp only [Prod.ext_iff, List.cons.injEq, true_and, Option.some.injEq]
    constructor
    · rintro ⟨hu, hc⟩
      exact ⟨m, p, ⟨rfl, rfl⟩, hu, hc⟩
    · rintro ⟨_, _, ⟨rfl, rfl⟩, hu, hc⟩
      exact ⟨hu, hc⟩

theorem splitVerbatim_stop {k : Char} {s : List Char} (h : splitVerbatim n q (k :: s) = ([], k :: s)) :
    n = 0 ∧ q = .outside := by
  rw [splitVerbatim_of_takes] at h
  cases ht : takes n q k with
  | some state => simp [ht] at h
  | none =>
    cases q with
    | outside =>
      simp only [takes] at ht
      split at ht
      case isTrue hn => exact ⟨by simpa using (Bool.and_eq_true_iff.1 hn).1, rfl⟩
      case isFalse => cases ht
    | inside => simp [takes] at ht
    | escaped => simp [takes] at ht

theorem splitVerbatim_stops (hd : Stops d) : splitVerbatim 0 .outside d = ([], d) := by
  cases d with
  | nil => rfl
  | cons k d => simp [splitVerbatim, hd k rfl]

theorem takes_blank {k : Char} (hk : isBlank k = true) {m : Nat} {p : Quoting}
    (h : takes n q k = some (m, p)) : m = n ∧ (p = .outside → q = .outside) := by
  have hne : ∀ x : Char, isBlank x = false → k ≠ x := by
    rintro x hx rfl
    rw [hk] at hx
    cases hx
  cases q with
  | outside =>
    have ho : Nesting.isOpener k = false := by
      simp [Nesting.isOpener, hne '(' (by decide), hne '[' (by decide), hne '{' (by decide)]
    have hc : Nesting.isCloser k = false := by
      simp [Nesting.isCloser, hne ')' (by decide), hne ']' (by decide), hne '}' (by decide)]
    simp only [takes, ho, hc] at h
    split at h
    · cases h
    · obtain ⟨rfl, -⟩ := Prod.mk.inj (Option.some.inj h)
      exact ⟨rfl, fun _ => rfl⟩
  | inside =>
    simp only [takes, hne '\\' (by decide), hne '"' (by decide), if_false] at h
    obtain ⟨rfl, rfl⟩ := Prod.mk.inj (Option.some.inj h)
    exact ⟨rfl, fun hp => by cases hp⟩
  | escaped =>
    obtain ⟨rfl, rfl⟩ := Prod.mk.inj (Option.some.inj h)
    exact ⟨rfl, fun hp => by cases hp⟩

/-- Where verbatim reading stops after blanks it could have stopped before them. -/
theorem outside_of_blank {b : List Char} (hb : Blank b) {k : Char} {s : List Char}
    (h : splitVerbatim n q (b ++ k :: s) = (b, k :: s)) : n = 0 ∧ q = .outside := by
  induction b generalizing n q with
  | nil => exact splitVerbatim_stop h
  | cons x b ih =>
    obtain ⟨hx, hb⟩ := List.forall_mem_cons.1 hb
    obtain ⟨m, p, htakes, hrest⟩ := splitVerbatim_cons_eq.1 h
    obtain ⟨rfl, rfl⟩ := ih hb hrest
    obtain ⟨hm, hq⟩ := takes_blank hx htakes
    exact ⟨hm.symm, hq rfl⟩

/-- Other text may follow, and no blanks in between, if it stops verbatim reading. -/
theorem splitVerbatim_trimEnd {x b : List Char} (hb : Blank b) (hd : Stops d)
    (hcd : c = [] → d = []) (h : splitVerbatim n q (x ++ (b ++ c)) = (x ++ b, c)) :
    splitVerbatim n q (x ++ d) = (x, d) := by
  induction x generalizing n q with
  | nil =>
    cases c with
    | nil =>
      rw [hcd rfl]
      cases q <;> rfl
    | cons k c =>
      obtain ⟨rfl, rfl⟩ := outside_of_blank hb h
      exact splitVerbatim_stops hd
  | cons k x ih =>
    obtain ⟨m, p, htakes, hrest⟩ := splitVerbatim_cons_eq.1 h
    exact splitVerbatim_cons_eq.2 ⟨m, p, htakes, ih hrest⟩

theorem splitVerbatim_trimStart {b s u : List Char} (hb : Blank b)
    (h : splitVerbatim 0 .outside (b ++ s) = (b ++ u, c)) : splitVerbatim 0 .outside s = (u, c) := by
  induction b with
  | nil => exact h
  | cons k b ih =>
    obtain ⟨hk, hb⟩ := List.forall_mem_cons.1 hb
    obtain ⟨m, p, htakes, hrest⟩ := splitVerbatim_cons_eq.1 h
    obtain ⟨rfl, -⟩ := takes_blank hk htakes
    have hquote : k ≠ '"' := by
      rintro rfl
      exact absurd hk (by decide)
    obtain rfl : p = .outside := by
      simp only [takes, hquote, if_false] at htakes
      split at htakes
      · cases htakes
      · exact (Prod.mk.inj (Option.some.inj htakes)).2.symm
    exact ih hb hrest

theorem Verbatim.kept {text : String} {u c : List Char} (h : Verbatim text u c) : Kept text :=
  ⟨h.split.1, h.split.2.1⟩

theorem Verbatim.parted {text : String} {u c : List Char} (h : Verbatim text u c) (hd : Stops d)
    (hcd : c = [] → d = []) : Parted (text, d) := by
  obtain ⟨-, -, hsplit, b, b', hb, hb', rfl⟩ := h.split
  rw [List.append_assoc, List.append_assoc] at hsplit
  exact splitVerbatim_trimEnd hb' hd hcd (splitVerbatim_trimStart hb hsplit)

end Reader

section Spelled

mutual

theorem Expression.Spelled.kept : (e : Expression) → {u c : List Char} → e.Spelled Verbatim u c →
    e.Shaped Kept
  | .integer _, _, _, ⟨hu, htext⟩ => by
    subst hu
    exact htext
  | .string segments, _, _, ⟨_, _, ht⟩ => SegmentsSpelled.kept segments ht
  | .dictionary entries, _, _, hu => by
    rcases hu with ⟨rfl, -⟩ | ⟨t, -, ht⟩
    · exact trivial
    · exact EntriesSpelled.kept entries ht
  | .identifier _, _, _, ⟨_, hname⟩ => hname
  | .call _ arguments, _, _, ⟨name, _, hcallee, hname, _, hlist⟩ => by
    refine ⟨⟨name, hcallee, hname⟩, ?_⟩
    rcases hlist with ⟨rfl, -⟩ | hlist
    · exact trivial
    · exact ArgumentsSpelled.kept arguments hlist
  | .other _, _, _, hu => Verbatim.kept hu

theorem SegmentsSpelled.kept : (segments : List Segment) → {t c : List Char} →
    SegmentsSpelled Verbatim segments t c → SegmentsShaped Kept segments
  | [], _, _, _ => trivial
  | .text _ :: segments, _, _, ⟨hvalue, _, _, ht⟩ => ⟨hvalue, SegmentsSpelled.kept segments ht⟩
  | .interpolation value :: segments, _, _, ⟨_, _, _, _, _, _, _, hvalue, _, ht⟩ =>
    ⟨Expression.Spelled.kept value hvalue, SegmentsSpelled.kept segments ht⟩

theorem EntriesSpelled.kept : (entries : List Entry) → {t c : List Char} →
    EntriesSpelled Verbatim entries t c → EntriesShaped Kept entries
  | ⟨key, value⟩ :: entries, _, _, ⟨_, _, _, _, _, _, _, _, _, _, hkey, _, hvalue, _, ht⟩ => by
    refine ⟨Expression.Spelled.kept key hkey, Expression.Spelled.kept value hvalue, ?_⟩
    rcases ht with ⟨rfl, -⟩ | ⟨_, _, _, _, hs⟩
    · exact trivial
    · exact EntriesSpelled.kept entries hs

theorem ArgumentsSpelled.kept : (arguments : List Argument) → {t c : List Char} →
    ArgumentsSpelled Verbatim arguments t c → ArgumentsShaped Kept arguments
  | ⟨label, value⟩ :: arguments, _, _, ⟨_, _, _, hl, _, hvalue, _, ht⟩ => by
    have hlabel : ∀ name ∈ label, isIdentifier name = true := by
      rintro name rfl
      obtain ⟨_, _, _, _, _, _, hname, _⟩ := hl
      exact hname
    refine ⟨hlabel, Expression.Spelled.kept value hvalue, ?_⟩
    rcases ht with ⟨rfl, -⟩ | ⟨_, _, _, _, hs⟩
    · exact trivial
    · exact ArgumentsSpelled.kept arguments hs

end

theorem Continues.ne_nil {α : Type} {bracket : Char} {items : List α} {spelled : List Char → Prop}
    {t : List Char} (h : Continues bracket items spelled t) : t ≠ [] := by
  rcases h with ⟨-, g, -, rfl | ⟨k, -, rfl⟩⟩ | ⟨g, s, -, rfl, -⟩ <;> simp

mutual

/-- Where it is written, every verbatim text is parted from what follows. -/
theorem Expression.Spelled.parted : (e : Expression) → {u c d : List Char} →
    e.Spelled Verbatim u c → Stops d → (c = [] → d = []) → ∀ p ∈ e.verbatims d, Parted p
  | .integer _, _, _, _, _, _, _, p, hp => by simp [Expression.verbatims] at hp
  | .string segments, _, _, _, ⟨_, _, ht⟩, _, _, p, hp => SegmentsSpelled.parted segments ht p hp
  | .dictionary entries, _, _, _, hu, _, _, p, hp => by
    rcases hu with ⟨rfl, -⟩ | ⟨t, -, ht⟩
    · simp [Expression.verbatims, entryVerbatims] at hp
    · exact EntriesSpelled.parted entries ht (stops_cons (by decide)) p hp
  | .identifier _, _, _, _, _, _, _, p, hp => by simp [Expression.verbatims] at hp
  | .call _ arguments, _, _, _, ⟨name, _, hcallee, _, _, hlist⟩, _, _, p, hp => by
    subst hcallee
    rcases hlist with ⟨rfl, -⟩ | hlist
    · simp [Expression.verbatims, argumentVerbatims] at hp
    · exact ArgumentsSpelled.parted arguments hlist (stops_cons (by decide)) p hp
  | .other text, _, _, d, hu, hd, hcd, p, hp => by
    obtain rfl : p = (text, d) := by simpa [Expression.verbatims] using hp
    exact Verbatim.parted hu hd hcd

theorem SegmentsSpelled.parted : (segments : List Segment) → {t c d : List Char} →
    SegmentsSpelled Verbatim segments t c → ∀ p ∈ segmentVerbatims segments d, Parted p
  | [], _, _, _, _, p, hp => by simp [segmentVerbatims] at hp
  | .text _ :: segments, _, _, _, ⟨_, _, _, ht⟩, p, hp => SegmentsSpelled.parted segments ht p hp
  | .interpolation value :: segments, _, _, _, ⟨_, _, _, _, _, _, _, hvalue, _, ht⟩, p, hp => by
    rcases List.mem_append.1 hp with hp | hp
    · exact Expression.Spelled.parted value hvalue (stops_cons (by decide)) (by simp) p hp
    · exact SegmentsSpelled.parted segments ht p hp

theorem EntriesSpelled.parted : (entries : List Entry) → {t c d : List Char} →
    EntriesSpelled Verbatim entries t c → Stops d → ∀ p ∈ entryVerbatims entries d, Parted p
  | ⟨key, value⟩ :: entries, _, _, _, ⟨_, _, _, _, _, _, _, _, _, _, hkey, _, hvalue, _, ht⟩, hd,
      p, hp => by
    rcases List.mem_append.1 hp with hp | hp
    · rcases List.mem_append.1 hp with hp | hp
      · exact Expression.Spelled.parted key hkey (stops_cons (by decide)) (by simp) p hp
      · exact Expression.Spelled.parted value hvalue (hd.others _) (by simp [ht.ne_nil]) p hp
    · rcases ht with ⟨rfl, -⟩ | ⟨_, _, _, _, hs⟩
      · simp [entryVerbatims] at hp
      · exact EntriesSpelled.parted entries hs hd p hp

theorem ArgumentsSpelled.parted : (arguments : List Argument) → {t c d : List Char} →
    ArgumentsSpelled Verbatim arguments t c → Stops d → ∀ p ∈ argumentVerbatims arguments d, Parted p
  | ⟨_, value⟩ :: arguments, _, _, _, ⟨_, _, _, _, _, hvalue, _, ht⟩, hd, p, hp => by
    rcases List.mem_append.1 hp with hp | hp
    · exact Expression.Spelled.parted value hvalue (hd.others _) (by simp [ht.ne_nil]) p hp
    · rcases ht with ⟨rfl, -⟩ | ⟨_, _, _, _, hs⟩
      · simp [argumentVerbatims] at hp
      · exact ArgumentsSpelled.parted arguments hs hd p hp

end

end Spelled

end SourceMacros

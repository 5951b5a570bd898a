import SourceMacros.Proofs.Expression.Taking
import SourceMacros.Proofs.Nesting.Scan
import SourceMacros.Proofs.Text.Trim

/-! Readers do not look past the brackets they are in: with other text behind the closing bracket they
find the same, `level_expressionWithin`. So a text without literals that closes its brackets, and is
verbatim by itself, is verbatim wherever an expression may end after it, `taken_of_isBracketed`. -/

namespace SourceMacros

open Text Reader

namespace Reader

/-- With `n` brackets open the text closes them all, holds no literal and no character of the given kind
outside of brackets. -/
def isBracketed (stop : Char → Bool) : Nat → List Char → Bool
  | n, [] => n == 0
  | n, c :: s =>
    c != '"' &&
      if Nesting.isOpener c then isBracketed stop (n + 1) s
      else if Nesting.isCloser c then n != 0 && isBracketed stop (n - 1) s
      else (n != 0 || !stop c) && isBracketed stop n s

variable {α β : Type} {n m l : Nat} {stop : Char → Bool}

theorem isBracketed_opener {k : Char} {v : List Char} (hk : Nesting.isOpener k = true)
    (h : isBracketed stop n (k :: v) = true) : isBracketed stop (n + 1) v = true := by
  simp only [isBracketed, hk, if_true, Bool.and_eq_true] at h
  exact h.2

theorem isBracketed_closer {k : Char} {v : List Char} (hk : Nesting.isCloser k = true)
    (h : isBracketed stop n (k :: v) = true) : n ≠ 0 ∧ isBracketed stop (n - 1) v = true := by
  have ho := Nesting.isOpener_of_isCloser hk
  simp only [isBracketed, ho, hk, if_true, Bool.false_eq_true, if_false, Bool.and_eq_true,
    bne_iff_ne] at h
  exact h.2

theorem isBracketed_other {k : Char} {v : List Char} (ho : Nesting.isOpener k = false)
    (hk : Nesting.isCloser k = false) (h : isBracketed stop n (k :: v) = true) :
    (n ≠ 0 ∨ stop k = false) ∧ isBracketed stop n v = true := by
  simp only [isBracketed, ho, hk, Bool.false_eq_true, if_false, Bool.and_eq_true, Bool.or_eq_true,
    bne_iff_ne, Bool.not_eq_true'] at h
  exact h.2

theorem ne_quote_of_isBracketed {k : Char} {v : List Char} (h : isBracketed stop n (k :: v) = true) :
    k ≠ '"' := by
  simp only [isBracketed, Bool.and_eq_true, bne_iff_ne] at h
  exact h.1

def Flat (test : Char → Bool) : Prop :=
  ∀ k, test k = true → Nesting.isOpener k = false ∧ Nesting.isCloser k = false

theorem flat_isGap : Flat isGap := by
  intro k hk
  simp only [isGap, isSpace, Bool.or_eq_true, beq_iff_eq] at hk
  rcases hk with ((rfl | rfl) | rfl) | rfl <;> decide

theorem flat_isSpace : Flat isSpace := fun k hk => flat_isGap k (isGap_of_isSpace hk)

theorem flat_continuesIdentifier : Flat continuesIdentifier := by
  intro k hk
  constructor
  · by_contra ho
    simp only [Nesting.isOpener, Bool.not_eq_false, Bool.or_eq_true, beq_iff_eq] at ho
    rcases ho with (rfl | rfl) | rfl <;> exact absurd hk (by decide)
  · by_contra hc
    simp only [Nesting.isCloser, Bool.not_eq_false, Bool.or_eq_true, beq_iff_eq] at hc
    rcases hc with (rfl | rfl) | rfl <;> exact absurd hk (by decide)

theorem Flat.isBracketed_dropWhile {test : Char → Bool} (ht : Flat test) {v : List Char}
    (h : isBracketed stop n v = true) : isBracketed stop n (v.dropWhile test) = true := by
  induction v with
  | nil => exact h
  | cons k v ih =>
    by_cases hk : test k = true
    · rw [List.dropWhile_cons_of_pos hk]
      exact ih (isBracketed_other (ht k hk).1 (ht k hk).2 h).2
    · rwa [List.dropWhile_cons_of_neg hk]

/-- The same text with `c` behind it and without; what is in front closes the `n` brackets open. -/
def Beside (c : List Char) (n : Nat) (s v : List Char) : Prop :=
  isBracketed isDelimiter n v = true ∧ Ended v ∧ s = v ++ c

/-- Whether or not `c` stands behind, the reader finds the same, from `n` open brackets to `m`. -/
def Level (c : List Char) (n m : Nat) (p : Reader α) : Prop :=
  Related (fun _ _ => True) (Beside c n) (Beside c m) p p

variable {c : List Char}

theorem level_pure (a : α) : Level c n n (pure a : Reader α) := related_pure a fun _ _ => id

theorem Level.bind {p : Reader α} {f : α → Reader β} (h : Level c n m p)
    (hf : ∀ a, Level c m l (f a)) : Level c n l (p >>= f) := Related.bind h hf

theorem Level.orElse {p q : Reader α} (h : Level c n m p) (h' : Level c n m q) :
    Level c n m (p <|> q) := Related.orElse h h'

theorem Level.optional {p : Reader α} (h : Level c n n p) : Level c n n (optional p) :=
  Related.optional h fun _ _ => id

theorem Beside.length_iff {s s' r r' : List Char} (hs : Beside c n s s') (hr : Beside c n r r') :
    r.length < s.length ↔ r'.length < s'.length := by
  obtain ⟨-, -, rfl⟩ := hs
  obtain ⟨-, -, rfl⟩ := hr
  simp

theorem Level.separated {separator : Reader Unit} {p : Reader α} (hs : Level c n n separator)
    (h : Level c n n p) : Level c n n (separated separator p) :=
  Related.separated hs h (fun _ _ _ _ => Beside.length_iff) fun _ _ _ => trivial

theorem level_skip {test : Char → Bool} (ht : Flat test) : Level c (n + 1) (n + 1) (skip test) := by
  rintro _ v ⟨hv, hended, rfl⟩
  have hne : (v.dropWhile test).isEmpty = false := by
    have hrest := ht.isBracketed_dropWhile hv
    cases hd : v.dropWhile test with
    | nil => simp [hd, isBracketed] at hrest
    | cons k w => rfl
  refine ⟨rfl, ht.isBracketed_dropWhile hv, ?_, ?_⟩
  · rw [← List.takeWhile_append_dropWhile (p := test) (l := v)] at hended
    exact hended.of_append
  · rw [List.dropWhile_append, hne]
    rfl

/-- The same character stands in front, or `c` alone is left. -/
theorem Beside.cases {s s' : List Char} (h : Beside c n s s') :
    (n = 0 ∧ s = c ∧ s' = []) ∨ ∃ k v, isBracketed isDelimiter n (k :: v) = true ∧ Ended (k :: v) ∧
      s = k :: (v ++ c) ∧ s' = k :: v := by
  obtain ⟨hv, hended, rfl⟩ := h
  cases s' with
  | nil => exact .inl ⟨by simpa [isBracketed] using hv, rfl, rfl⟩
  | cons k v => exact .inr ⟨k, v, hv, hended, rfl, rfl⟩

theorem level_char {k : Char} (hc : n = 0 → c.head? ≠ some k)
    (hk : ∀ v, isBracketed isDelimiter n (k :: v) = true → isBracketed isDelimiter m v = true) : Level c n m (char k) := by
  intro s s' h
  rcases h.cases with ⟨hn, rfl, rfl⟩ | ⟨d, v, hv, hended, rfl, rfl⟩
  · rw [char_miss (hc hn)]
    trivial
  · by_cases hd : d = k
    · subst hd
      rw [char_cons, char_cons]
      exact ⟨rfl, hk v hv, hended.of_append (s := [d]), rfl⟩
    · rw [char_miss (by simpa using hd), char_miss (by simpa using hd)]
      trivial

section Readers

variable (hc : endsExpression c = true)
include hc

theorem head?_ne_of_endsExpression {k : Char} (hk : k ∉ endings) : c.head? ≠ some k := by
  cases c with
  | nil => simp
  | cons d t =>
    intro hd
    exact hk (Option.some.inj hd ▸ mem_endings hc)

theorem level_identifier : Level c n n identifier := by
  intro s s' h
  rcases h.cases with ⟨-, rfl, rfl⟩ | ⟨k, v, hv, hended, rfl, rfl⟩
  · cases s with
    | nil => trivial
    | cons k t =>
      have hk : startsIdentifier k = false := eq_false_of_endsExpression (by decide) hc
      simp only [identifier, hk, Bool.false_eq_true, if_false]
      trivial
  · by_cases hk : startsIdentifier k = true
    · have hword := endsWord_of_endsExpression hc
      have hflat := continuesIdentifier_of_starts hk
      have hv' := isBracketed_other (flat_continuesIdentifier k hflat).1
        (flat_continuesIdentifier k hflat).2 hv
      simp only [identifier, hk, if_true, takeWhile_append_of_head hword, dropWhile_append_of_head hword]
      refine ⟨rfl, flat_continuesIdentifier.isBracketed_dropWhile hv'.2, ?_, rfl⟩
      rw [← List.takeWhile_append_dropWhile (p := continuesIdentifier) (l := v),
        ← List.cons_append] at hended
      exact hended.of_append
    · simp only [identifier, hk]
      trivial

theorem level_integer : Level c n n integer := by
  have hdigits : ∀ s sign d (w : List Char), splitSign s = (sign, d :: (w ++ c)) →
      splitSign (sign ++ d :: w) = (sign, d :: w) → isBracketed isDelimiter n (d :: w) = true →
      Ended (d :: w) →
      (integer s).Agree (fun _ _ => True) (Beside c n) (integer (sign ++ d :: w)) := by
    intro s sign d w hs hs' hv hended
    have hword := endsWord_of_endsExpression hc
    rw [integer_of_splitSign hs, integer_of_splitSign hs']
    by_cases hd : d.isDigit = true
    · have hflat : continuesIdentifier d = true := by simp [continuesIdentifier, Char.isAlphanum, hd]
      have hv' := isBracketed_other (flat_continuesIdentifier d hflat).1
        (flat_continuesIdentifier d hflat).2 hv
      simp only [hd, if_true, takeWhile_append_of_head hword, dropWhile_append_of_head hword]
      refine ⟨rfl, flat_continuesIdentifier.isBracketed_dropWhile hv'.2, ?_, rfl⟩
      rw [← List.takeWhile_append_dropWhile (p := continuesIdentifier) (l := w),
        ← List.cons_append] at hended
      exact hended.of_append
    · simp only [hd]
      trivial
  intro s s' h
  have hends : ∀ {k t}, endsExpression (k :: t) = true → k.isDigit = false ∧ k ≠ '-' := by
    intro k t hk
    refine ⟨eq_false_of_endsExpression (by decide) hk, ?_⟩
    rintro rfl
    exact absurd (mem_endings hk) (by decide)
  rcases h.cases with ⟨-, rfl, rfl⟩ | ⟨k, v, hv, hended, rfl, rfl⟩
  · cases s with
    | nil => trivial
    | cons k t =>
      rw [integer_miss (hends hc).1 (hends hc).2]
      trivial
  · by_cases hk : k = '-'
    · subst hk
      have hv' := (isBracketed_other (by decide) (by decide) hv).2
      cases v with
      | nil =>
        cases c with
        | nil => trivial
        | cons d t =>
          rw [List.nil_append, integer_of_splitSign (show splitSign ('-' :: d :: t) = (['-'], d :: t) from rfl),
            (hends hc).1]
          trivial
      | cons d w => exact hdigits _ ['-'] d w rfl rfl hv' (hended.of_append (s := ['-']))
    · exact hdigits _ [] k v (splitSign_of_ne hk _) (splitSign_of_ne hk _) hv hended

theorem level_expressionEnd : Level c n n expressionEnd := by
  have hends : ∀ v, Ended v → endsExpression (v ++ c) = endsExpression v := by
    intro v hv
    induction v with
    | nil => exact hc
    | cons k v ih =>
      rw [List.cons_append]
      by_cases hk : isSpace k = true
      · rw [endsExpression_space hk, endsExpression_space hk, ih (hv.of_append (s := [k]))]
      · rw [endsExpression_cons (by simpa using hk), endsExpression_cons (by simpa using hk)]
        cases v with
        | nil =>
          have hcr : k ≠ '\r' := by rintro rfl; exact absurd (hv [] '\r' rfl) (by decide)
          simp [hcr]
        | cons d w => rfl
  rintro _ v ⟨hv, hended, rfl⟩
  rw [expressionEnd, expressionEnd, hends v hended]
  cases endsExpression v with
  | true => exact ⟨rfl, hv, hended, rfl⟩
  | false => trivial

theorem Level.closed {p : Reader Expression} (h : Level c n m p) : Level c n m (closed p) :=
  h.bind fun _ => (level_expressionEnd hc).bind fun _ => level_pure _

theorem level_opener {k : Char} (hk : Nesting.isOpener k = true) : Level c n (n + 1) (char k) := by
  refine level_char (fun _ => head?_ne_of_endsExpression hc ?_) fun v hv => isBracketed_opener hk hv
  simp only [Nesting.isOpener, Bool.or_eq_true, beq_iff_eq] at hk
  rcases hk with (rfl | rfl) | rfl <;> decide

theorem level_stringLiteral (p : Reader Expression) : Level c n n (stringLiteral p) := by
  intro s s' h
  rcases h.cases with ⟨-, rfl, rfl⟩ | ⟨k, v, hv, -, rfl, rfl⟩
  · rw [stringLiteral_miss (head?_ne_of_endsExpression hc (by decide))]
    trivial
  · have hk : ∀ t, (k :: t).head? ≠ some '"' := fun t ht =>
      ne_quote_of_isBracketed hv (Option.some.inj ht)
    rw [stringLiteral_miss (hk _), stringLiteral_miss (hk _)]
    trivial

end Readers

theorem level_closer {k : Char} (hk : Nesting.isCloser k = true) : Level c (n + 1) n (symbol k) :=
  (level_skip flat_isGap).bind fun _ =>
    level_char (fun h => absurd h (Nat.succ_ne_zero n)) fun _ hv => (isBracketed_closer hk hv).2

theorem level_symbol {k : Char} (ho : Nesting.isOpener k = false) (hk : Nesting.isCloser k = false) :
    Level c (n + 1) (n + 1) (symbol k) :=
  (level_skip flat_isGap).bind fun _ =>
    level_char (fun h => absurd h (Nat.succ_ne_zero n)) fun _ hv => (isBracketed_other ho hk hv).2

section Composed

variable (hc : endsExpression c = true)
include hc

theorem level_dictionary {p : Reader Expression} (hp : Level c (n + 1) (n + 1) p) :
    Level c n n (dictionary p) := by
  have hcolon : Level c (n + 1) (n + 1) (symbol ':') := level_symbol (by decide) (by decide)
  have hcomma : Level c (n + 1) (n + 1) (symbol ',') := level_symbol (by decide) (by decide)
  have hclose : Level c (n + 1) n (symbol ']') := level_closer (by decide)
  have hentry : Level c (n + 1) (n + 1) (entry p) :=
    hp.bind fun _ => hcolon.bind fun _ => hp.bind fun _ => level_pure _
  have hopen : Level c n (n + 1) (char '[') := level_opener hc (by decide)
  refine Level.orElse ?_ ?_
  · exact hopen.bind fun _ => hcolon.bind fun _ => hclose.bind fun _ => level_pure _
  · exact hopen.bind fun _ => (hcomma.separated hentry).bind fun _ => hcomma.optional.bind fun _ =>
      hclose.bind fun _ => level_pure _

theorem level_callOrIdentifier {p : Reader Expression} (hp : Level c (n + 1) (n + 1) p) :
    Level c n n (callOrIdentifier p) := by
  have hcomma : Level c (n + 1) (n + 1) (symbol ',') := level_symbol (by decide) (by decide)
  have hclose : Level c (n + 1) n (symbol ')') := level_closer (by decide)
  have hlabel : Level c (n + 1) (n + 1) label :=
    ((level_skip flat_isGap).bind fun _ => level_identifier hc).bind fun _ =>
      (level_skip flat_isSpace).bind fun _ =>
        (level_char (fun h => absurd h (Nat.succ_ne_zero n))
          fun _ hv => (isBracketed_other (by decide) (by decide) hv).2).bind fun _ => level_pure _
  have hargument : Level c (n + 1) (n + 1) (argument p) :=
    hlabel.optional.bind fun _ => hp.bind fun _ => level_pure _
  have hlist : Level c n n (argumentList p) :=
    (level_opener hc (by decide)).bind fun _ => (hcomma.separated hargument).optional.bind fun _ =>
      hcomma.optional.bind fun _ => hclose.bind fun _ => level_pure _
  refine (level_identifier hc).bind fun _ => hlist.optional.bind fun arguments => ?_
  cases arguments <;> exact level_pure _

theorem level_knownShape {p : Reader Expression} (hp : Level c (n + 1) (n + 1) p) :
    Level c n n (knownShape p) :=
  ((level_integer hc).closed hc).orElse <| ((level_stringLiteral hc p).closed hc).orElse <|
    ((level_dictionary hc hp).closed hc).orElse ((level_callOrIdentifier hc hp).closed hc)

end Composed

theorem splitVerbatim_cons {k : Char} {d : Nat} (hq : k ≠ '"')
    (hk : (decide (d = 0) && (isDelimiter k || Nesting.isCloser k)) = false) (s : List Char) :
    splitVerbatim d .outside (k :: s) =
      (k :: (splitVerbatim (if Nesting.isOpener k then d + 1 else if Nesting.isCloser k then d - 1
          else d) .outside s).1,
        (splitVerbatim (if Nesting.isOpener k then d + 1 else if Nesting.isCloser k then d - 1
          else d) .outside s).2) := by
  rw [splitVerbatim, hk]
  simp only [hq, if_false, Bool.false_eq_true]

/-- Within brackets, verbatim text ends before the closing one. -/
theorem splitVerbatim_within {d : Nat} {v : List Char} (hv : isBracketed isDelimiter (n + 1 + d) v = true)
    (c : List Char) : ∃ t w, v = t ++ w ∧ isBracketed isDelimiter (n + 1) w = true ∧
      splitVerbatim d .outside (v ++ c) = (t, w ++ c) ∧ splitVerbatim d .outside v = (t, w) := by
  induction v generalizing d with
  | nil => simp [isBracketed] at hv
  | cons k v ih =>
    by_cases hk : (decide (d = 0) && (isDelimiter k || Nesting.isCloser k)) = true
    · refine ⟨[], k :: v, rfl, ?_, ?_, ?_⟩
      · have hd : d = 0 := by
          simp only [Bool.and_eq_true, decide_eq_true_eq] at hk
          exact hk.1
        rwa [hd] at hv
      · rw [List.cons_append, splitVerbatim, hk]
        rfl
      · rw [splitVerbatim, hk]
        rfl
    · have hq := ne_quote_of_isBracketed hv
      have hk' := Bool.not_eq_true _ ▸ hk
      obtain ⟨t, w, rfl, hw, h₁, h₂⟩ : ∃ t w, v = t ++ w ∧ isBracketed isDelimiter (n + 1) w = true ∧
          splitVerbatim (if Nesting.isOpener k then d + 1 else if Nesting.isCloser k then d - 1
            else d) .outside (v ++ c) = (t, w ++ c) ∧
          splitVerbatim (if Nesting.isOpener k then d + 1 else if Nesting.isCloser k then d - 1
            else d) .outside v = (t, w) := by
        by_cases ho : Nesting.isOpener k = true
        · rw [if_pos ho]
          exact ih (isBracketed_opener ho hv)
        · by_cases hcl : Nesting.isCloser k = true
          · rw [if_neg ho, if_pos hcl]
            have hd : d ≠ 0 := by
              rintro rfl
              simp [hcl] at hk
            have hrest := (isBracketed_closer hcl hv).2
            rw [show n + 1 + d - 1 = n + 1 + (d - 1) by omega] at hrest
            exact ih hrest
          · rw [if_neg ho, if_neg hcl]
            exact ih (isBracketed_other (by simpa using ho) (by simpa using hcl) hv).2
      refine ⟨k :: t, w, rfl, hw, ?_, ?_⟩
      · rw [List.cons_append, splitVerbatim_cons hq hk', h₁]
      · rw [splitVerbatim_cons hq hk', h₂]

theorem level_verbatim : Level c (n + 1) (n + 1) verbatim := by
  rintro _ v ⟨hv, hended, rfl⟩
  obtain ⟨t, w, rfl, hw, h₁, h₂⟩ := splitVerbatim_within (d := 0) hv c
  simp only [verbatim, h₁, h₂]
  split
  · trivial
  · exact ⟨rfl, hw, hended.of_append, rfl⟩

theorem level_expressionWithin (hc : endsExpression c = true) (levels : Nat) :
    Level c (n + 1) (n + 1) (expressionWithin levels) := by
  induction levels generalizing n with
  | zero => exact fun _ _ _ => trivial
  | succ levels ih =>
    refine (level_skip flat_isGap).bind fun _ => ?_
    intro s s' h
    rw [expressionShape_eq, expressionShape_eq]
    exact ((level_knownShape hc ih).orElse level_verbatim) h

theorem level_expression (hc : endsExpression c = true) :
    Level c (n + 1) (n + 1) expression := by
  rintro _ v ⟨hv, hended, rfl⟩
  have h := level_expressionWithin hc ((v ++ c).length + v.length + 1) ⟨hv, hended, rfl⟩
  rwa [expressionWithin_eq (by omega), expressionWithin_eq (by omega)] at h

/-- Where an expression may end, verbatim text takes a gap more at most. -/
theorem exists_gap_of_endsExpression {c : List Char} (hc : endsExpression c = true) :
    ∃ b r, c = b ++ r ∧ Gap b ∧ splitVerbatim 0 .outside c = (b, r) := by
  induction c with
  | nil => exact ⟨[], [], rfl, Gap.nil, rfl⟩
  | cons k c ih =>
    by_cases hk : isSpace k = true
    · rw [endsExpression_space hk] at hc
      obtain ⟨b, r, rfl, hb, hsplit⟩ := ih hc
      refine ⟨k :: b, r, rfl, List.forall_mem_cons.2 ⟨isGap_of_isSpace hk, hb⟩, ?_⟩
      simp only [isSpace, Bool.or_eq_true, beq_iff_eq] at hk
      rcases hk with rfl | rfl <;> rw [splitVerbatim_cons (by decide) (by decide)] <;>
        simp [Nesting.isOpener, Nesting.isCloser, hsplit]
    · rw [endsExpression_cons (by simpa using hk), Bool.or_eq_true, Bool.and_eq_true, beq_iff_eq,
        beq_iff_eq] at hc
      rcases hc with ⟨rfl, hhead⟩ | hstop
      · obtain ⟨t, rfl⟩ : ∃ t, c = '\n' :: t := by
          cases c with
          | nil => cases hhead
          | cons d t => exact ⟨t, by rw [Option.some.inj hhead]⟩
        exact ⟨['\r'], '\n' :: t, rfl, by simp [Gap, isGap], rfl⟩
      · exact ⟨[], k :: c, rfl, Gap.nil, by simp [splitVerbatim, hstop]⟩

theorem splitVerbatim_of_isBracketed {d : Nat} {v : List Char} (hv : isBracketed isDelimiter d v = true)
    (c : List Char) : splitVerbatim d .outside (v ++ c) =
      (v ++ (splitVerbatim 0 .outside c).1, (splitVerbatim 0 .outside c).2) := by
  induction v generalizing d with
  | nil =>
    obtain rfl : d = 0 := by simpa [isBracketed] using hv
    rfl
  | cons k v ih =>
    have hq := ne_quote_of_isBracketed hv
    by_cases ho : Nesting.isOpener k = true
    · have hstop : (isDelimiter k || Nesting.isCloser k) = false := by
        simp only [Nesting.isOpener, Bool.or_eq_true, beq_iff_eq] at ho
        rcases ho with (rfl | rfl) | rfl <;> decide
      rw [List.cons_append, splitVerbatim_cons hq (by simp [hstop]), if_pos ho,
        ih (isBracketed_opener ho hv)]
      rfl
    · by_cases hcl : Nesting.isCloser k = true
      · obtain ⟨hd, hrest⟩ := isBracketed_closer hcl hv
        rw [List.cons_append, splitVerbatim_cons hq (by simp [hd]), if_neg ho, if_pos hcl, ih hrest]
        rfl
      · obtain ⟨hd, hrest⟩ := isBracketed_other (by simpa using ho) (by simpa using hcl) hv
        have hstop : (decide (d = 0) && (isDelimiter k || Nesting.isCloser k)) = false := by
          rcases hd with hd | hd
          · simp [hd]
          · simp [hd, hcl]
        rw [List.cons_append, splitVerbatim_cons hq hstop, if_neg ho, if_neg hcl, ih hrest]
        rfl

/-- A text without literals that closes its brackets and is verbatim by itself is verbatim wherever an
expression may end after it. -/
theorem taken_of_isBracketed {text : String} (hb : isBracketed isDelimiter 0 text.toList = true)
    (hne : text.toList ≠ []) (htrim : trim text.toList = text.toList) {r : List Char}
    (hread : expression text.toList = .done (.other text) r) {c : List Char}
    (hc : endsExpression c = true) : Taken text text.toList c := by
  have htrimmed := trimmed_of_trim_eq htrim
  obtain ⟨k, t, hk⟩ : ∃ k t, text.toList = k :: t := List.exists_cons_of_ne_nil hne
  have hgap : isGap k = false := isGap_of_not_isBlank (htrimmed.head k (by rw [hk]; rfl))
  have hshape : expressionShape expression text.toList = .done (.other text) r := by
    rw [expression_eq, hk, bind_apply] at hread
    simp only [gap, skip, dropWhile_cons_of_neg hgap] at hread
    rwa [hk]
  obtain ⟨⟨p, hmiss⟩, -⟩ := expressionShape_eq_other.1 hshape
  have hlevel := level_knownShape hc (level_expression (n := 0) hc) ⟨hb, htrimmed.ended, rfl⟩
  rw [hmiss] at hlevel
  obtain ⟨q, hq⟩ : ∃ q, knownShape expression (text.toList ++ c) = .miss q := by
    cases ho : knownShape expression (text.toList ++ c) with
    | miss q => exact ⟨q, rfl⟩
    | done e s => simp [ho, Outcome.Agree] at hlevel
    | halt s => simp [ho, Outcome.Agree] at hlevel
  obtain ⟨b, r', rfl, hb', hsplit⟩ := exists_gap_of_endsExpression hc
  have hverbatim : verbatim (text.toList ++ (b ++ r')) = .done (.other text) r' := by
    rw [verbatim_eq_done, splitVerbatim_of_isBracketed hb, hsplit]
    refine ⟨hne, ?_, rfl⟩
    exact (htrimmed.trim_eq Blank.nil (fun c hc => isBlank_of_isGap (hb' c hc)) hne).symm
  refine ⟨r', expression_of_shape (k := k) (by rw [hk]; rfl) hgap
    (expressionShape_eq_other.2 ⟨⟨q, hq⟩, hverbatim⟩), ?_⟩
  rw [hb'.dropWhile_append]

end Reader
end SourceMacros

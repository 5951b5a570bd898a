import SourceMacros.Proofs.Expression.Reading
import SourceMacros.Proofs.Text.Trim

/-! Which shape takes a text, by its first character, and where none does: no expression begins with a
delimiter or a closing bracket, `expression_miss`. -/

namespace SourceMacros

open Text Reader

namespace Reader

theorem expression_gap {g : List Char} (hg : Gap g) (s : List Char) :
    expression (g ++ s) = expression s := by
  simp only [expression_eq, bind_apply, gap, skip, hg.dropWhile_append]

theorem expression_of_shape {s r : List Char} {e : Expression} {k : Char} (hs : s.head? = some k)
    (hk : isGap k = false) (h : expressionShape expression s = .done e r) :
    expression s = .done e r := by
  obtain ⟨t, rfl⟩ : ∃ t, s = k :: t := by
    cases s with
    | nil => cases hs
    | cons d t => exact ⟨t, by rw [Option.some.inj hs]⟩
  rw [expression_eq, bind_apply]
  simp only [gap, skip, dropWhile_cons_of_neg hk, h]

theorem closed_miss {p : Reader Expression} {s t : List Char} (h : p s = .miss t) :
    closed p s = .miss t := bind_miss h

def endings : List Char := [' ', '\t', '\r', ',', ':', ';', '\n', ')', ']', '}']

theorem mem_endings {k : Char} {s : List Char} (h : endsExpression (k :: s) = true) :
    k ∈ endings := by
  by_cases hk : isSpace k = true
  · simp only [isSpace, Bool.or_eq_true, beq_iff_eq] at hk
    rcases hk with rfl | rfl <;> decide
  · rw [endsExpression_cons (by simpa using hk)] at h
    simp only [isDelimiter, Nesting.isCloser, Bool.or_eq_true, Bool.and_eq_true, beq_iff_eq] at h
    rcases h with ⟨rfl, _⟩ | (((rfl | rfl) | rfl) | rfl) | (rfl | rfl) | rfl <;> decide

theorem eq_false_of_endsExpression {test : Char → Bool}
    (htest : endings.all (fun k => !test k) = true) {k : Char} {s : List Char}
    (h : endsExpression (k :: s) = true) : test k = false := by
  simpa using List.all_eq_true.1 htest k (mem_endings h)

theorem endsWord_of_endsExpression {c : List Char} (h : endsExpression c = true) : EndsWord c := by
  intro k hk
  cases c with
  | nil => cases hk
  | cons d s =>
    obtain rfl := Option.some.inj hk
    exact eq_false_of_endsExpression (by decide) h

theorem argumentList_miss {c : List Char} (h : endsExpression c = true) (p : Reader Expression) :
    argumentList p c = .miss c := by
  refine bind_miss (char_miss ?_)
  cases c with
  | nil => simp
  | cons k s =>
    intro hk
    have hmem := mem_endings h
    rw [Option.some.inj hk] at hmem
    exact absurd hmem (by decide)

theorem splitSign_of_ne {c : Char} (h : c ≠ '-') (s : List Char) :
    splitSign (c :: s) = ([], c :: s) := by
  unfold splitSign
  split
  case h_1 heq => exact absurd (List.cons.inj heq).1 h
  case h_2 => rfl

theorem integer_of_splitSign {s sign r : List Char} {c : Char} (h : splitSign s = (sign, c :: r)) :
    integer s = if c.isDigit then
        .done (.integer (String.ofList (sign ++ c :: r.takeWhile continuesIdentifier)))
          (r.dropWhile continuesIdentifier)
      else .miss (c :: r) := by simp only [integer, h]

theorem integer_miss {c : Char} (hd : c.isDigit = false) (hm : c ≠ '-') (s : List Char) :
    integer (c :: s) = .miss (c :: s) := by
  rw [integer_of_splitSign (splitSign_of_ne hm s), hd]
  rfl

theorem isDigit_of_startsIdentifier {c : Char} (h : startsIdentifier c = true) :
    c.isDigit = false ∧ c ≠ '-' := by
  constructor
  · by_contra hd
    rw [Bool.not_eq_false, Char.isDigit_iff_toNat] at hd
    obtain ⟨-, hnine⟩ := hd
    rcases Bool.or_eq_true_iff.1 h with hletter | hunderscore
    · have hcases : 'A'.toNat ≤ c.toNat ∨ 'a'.toNat ≤ c.toNat := by
        rcases Bool.or_eq_true_iff.1 hletter with hupper | hlower
        · exact .inl (of_decide_eq_true hupper).1
        · exact .inr (of_decide_eq_true (Bool.and_eq_true_iff.1 hlower).1)
      simp at hcases hnine
      omega
    · rw [eq_of_beq hunderscore] at hnine
      exact absurd hnine (by decide)
  · rintro rfl
    exact absurd h (by decide)

theorem integer_append {u c : List Char} (hu : isIntegerText u = true) (hc : EndsWord c) :
    integer (u ++ c) = .done (.integer (String.ofList u)) c := by
  obtain ⟨sign, d, r, rfl, hsign, hd, hr⟩ := exists_digits hu
  have hsplit : splitSign (sign ++ d :: r ++ c) = (sign, d :: (r ++ c)) := by
    rcases hsign with rfl | rfl
    · have hm : d ≠ '-' := by
        rintro rfl
        exact absurd hd (by decide)
      exact splitSign_of_ne hm _
    · rfl
  rw [integer_of_splitSign hsplit, takeWhile_append_eq hr hc, dropWhile_append_eq hr hc, hd]
  rfl

theorem stringLiteral_miss {s : List Char} (h : s.head? ≠ some '"') (p : Reader Expression) :
    stringLiteral p s = .miss s := bind_miss (char_miss h)

theorem dictionary_miss {s : List Char} (h : s.head? ≠ some '[') (p : Reader Expression) :
    dictionary p s = .miss s := by
  have hempty : emptyDictionary s = .miss s := bind_miss (char_miss h)
  exact (orElse_miss hempty).trans (bind_miss (char_miss h))

/-- Any shape but the verbatim one. -/
def knownShape (inner : Reader Expression) : Reader Expression :=
  closed integer <|> closed (stringLiteral inner) <|> closed (dictionary inner) <|>
    closed (callOrIdentifier inner)

section Shapes

variable {s r : List Char} {e : Expression}

theorem expressionShape_eq (p : Reader Expression) (s : List Char) :
    expressionShape p s = (knownShape p <|> verbatim) s := by
  simp only [expressionShape, knownShape, orElse_apply]
  cases closed integer s <;> cases closed (stringLiteral p) s <;> cases closed (dictionary p) s <;> rfl

theorem knownShape_ne_other {text : String} : knownShape expression s ≠ .done (.other text) r := by
  intro h
  rcases orElse_eq_done.1 h with h | ⟨-, h⟩
  · obtain ⟨_, he, -⟩ := integer_eq_done (closed_eq_done.1 h).1
    cases he
  rcases orElse_eq_done.1 h with h | ⟨-, h⟩
  · obtain ⟨_, _, -, hpure⟩ := bind_eq_done.1 (closed_eq_done.1 h).1
    obtain ⟨_, _, -, hpure⟩ := bind_eq_done.1 hpure
    cases hpure
  rcases orElse_eq_done.1 h with h | ⟨-, h⟩
  · rcases orElse_eq_done.1 (closed_eq_done.1 h).1 with h | ⟨-, h⟩ <;>
      simp [emptyDictionary, filledDictionary, bind_eq_done] at h
  · obtain ⟨_, _, -, hrest⟩ := bind_eq_done.1 (closed_eq_done.1 h).1
    obtain ⟨o, _, -, hpure⟩ := bind_eq_done.1 hrest
    cases o <;> cases hpure

/-- What is verbatim was missed by every known shape. -/
theorem expressionShape_eq_other {text : String} :
    expressionShape expression s = .done (.other text) r ↔
      (∃ t, knownShape expression s = .miss t) ∧ verbatim s = .done (.other text) r := by
  rw [expressionShape_eq, orElse_eq_done]
  exact or_iff_right knownShape_ne_other

theorem verbatim_eq_done {text : String} : verbatim s = .done (.other text) r ↔
    text.toList ≠ [] ∧ text.toList = trim (splitVerbatim 0 .outside s).1 ∧
      r = (splitVerbatim 0 .outside s).2 := by
  have htext : ∀ t, String.ofList t = text ↔ text.toList = t := by
    intro t
    rw [← String.toList_inj, String.toList_ofList, eq_comm]
  simp only [verbatim]
  split
  case isTrue h =>
    rw [List.isEmpty_iff] at h
    simp only [reduceCtorEq, false_iff, h]
    rintro ⟨hne, ht, -⟩
    exact hne ht
  case isFalse h =>
    rw [List.isEmpty_iff] at h
    simp only [Outcome.done.injEq, Expression.other.injEq, htext]
    constructor
    · rintro ⟨ht, hr⟩
      exact ⟨by rwa [ht], ht, hr.symm⟩
    · rintro ⟨-, ht, hr⟩
      exact ⟨ht, hr.symm⟩

/-- What is taken verbatim is the text with blanks around it, up to where it has to stop. -/
theorem Verbatim.split {text : String} {u c : List Char} (h : Verbatim text u c) :
    text.toList ≠ [] ∧ Trimmed text.toList ∧ splitVerbatim 0 .outside (u ++ c) = (u, c) ∧
      ∃ b b', Blank b ∧ Blank b' ∧ u = b ++ (text.toList ++ b') := by
  obtain ⟨hne, htext, hc⟩ := verbatim_eq_done.1 (expressionShape_eq_other.1 h.shape).2
  have hsplit := splitVerbatim_append 0 .outside (u ++ c)
  rw [← hc] at hsplit
  have hu : (splitVerbatim 0 .outside (u ++ c)).1 = u := List.append_cancel_right hsplit
  rw [hu] at htext
  obtain ⟨b, b', hb, hb', hparts, htrim⟩ := exists_trim u
  rw [← htext] at hparts htrim
  exact ⟨hne, htrim, Prod.ext hu hc.symm, b, b', hb, hb', hparts⟩

theorem expressionShape_of_integer (h : integer s = .done e r) (hr : endsExpression r = true) :
    expressionShape expression s = .done e r := orElse_done (closed_eq_done.2 ⟨h, hr⟩)

theorem expressionShape_of_stringLiteral {t : List Char}
    (h : stringLiteral expression ('"' :: t) = .done e r) (hr : endsExpression r = true) :
    expressionShape expression ('"' :: t) = .done e r := by
  unfold expressionShape
  rw [orElse_miss (closed_miss (integer_miss (by decide) (by decide) t))]
  exact orElse_done (closed_eq_done.2 ⟨h, hr⟩)

theorem expressionShape_of_dictionary {t : List Char}
    (h : dictionary expression ('[' :: t) = .done e r) (hr : endsExpression r = true) :
    expressionShape expression ('[' :: t) = .done e r := by
  unfold expressionShape
  rw [orElse_miss (closed_miss (integer_miss (by decide) (by decide) t)),
    orElse_miss (closed_miss (stringLiteral_miss (by simp) expression))]
  exact orElse_done (closed_eq_done.2 ⟨h, hr⟩)

theorem expressionShape_of_word {c : Char} {t : List Char} (hc : startsIdentifier c = true)
    (h : callOrIdentifier expression (c :: t) = .done e r) (hr : endsExpression r = true) :
    expressionShape expression (c :: t) = .done e r := by
  obtain ⟨hd, hm⟩ := isDigit_of_startsIdentifier hc
  have hq : (c :: t).head? ≠ some '"' := by
    intro hq
    rw [Option.some.inj hq] at hc
    exact absurd hc (by decide)
  have hb : (c :: t).head? ≠ some '[' := by
    intro hb
    rw [Option.some.inj hb] at hc
    exact absurd hc (by decide)
  unfold expressionShape
  rw [orElse_miss (closed_miss (integer_miss hd hm t)),
    orElse_miss (closed_miss (stringLiteral_miss hq expression)),
    orElse_miss (closed_miss (dictionary_miss hb expression))]
  exact orElse_done (closed_eq_done.2 ⟨h, hr⟩)

end Shapes

theorem isGap_of_startsIdentifier {c : Char} (h : startsIdentifier c = true) : isGap c = false := by
  by_contra hg
  simp only [isGap, isSpace, Bool.not_eq_false, Bool.or_eq_true, beq_iff_eq] at hg
  rcases hg with ((rfl | rfl) | rfl) | rfl <;> exact absurd h (by decide)

theorem exists_cons_of_isIntegerText {u : List Char} (h : isIntegerText u = true) :
    ∃ k t, u = k :: t ∧ isGap k = false := by
  obtain ⟨sign, d, r, rfl, rfl | rfl, hd, -⟩ := exists_digits h
  · refine ⟨d, r, rfl, ?_⟩
    by_contra hg
    simp only [isGap, isSpace, Bool.not_eq_false, Bool.or_eq_true, beq_iff_eq] at hg
    rcases hg with ((rfl | rfl) | rfl) | rfl <;> exact absurd hd (by decide)
  · exact ⟨'-', d :: r, rfl, by decide⟩

theorem expression_of_identifier {name : String} (hname : isIdentifier name = true)
    {g c : List Char} (hg : Gap g) (hc : endsExpression c = true) :
    expression (g ++ (name.toList ++ c)) = .done (.identifier name) c := by
  have hword := identifier_append hname (endsWord_of_endsExpression hc)
  rw [String.ofList_toList] at hword
  have h : callOrIdentifier expression (name.toList ++ c) = .done (.identifier name) c := by
    rw [callOrIdentifier, bind_done hword, bind_done (optional_miss (argumentList_miss hc expression))]
    rfl
  obtain ⟨k, t, hk, hstart⟩ := exists_cons_of_isIdentifier hname
  rw [expression_gap hg]
  refine expression_of_shape (k := k) (by rw [hk]; rfl) (isGap_of_startsIdentifier hstart) ?_
  rw [hk] at h ⊢
  exact expressionShape_of_word hstart h hc

theorem expression_miss {k : Char} {s r : List Char} (hs : s.dropWhile isGap = k :: r)
    (hk : (isDelimiter k || Nesting.isCloser k) = true) : ∃ t, expression s = .miss t := by
  have hends : endsExpression (k :: r) = true := by
    by_cases hspace : isSpace k = true
    · simp only [isSpace, Bool.or_eq_true, beq_iff_eq] at hspace
      rcases hspace with rfl | rfl <;> exact absurd hk (by decide)
    · rw [endsExpression_cons (by simpa using hspace), hk, Bool.or_true]
  have hint : integer (k :: r) = .miss (k :: r) := by
    refine integer_miss (eq_false_of_endsExpression (by decide) hends) ?_ r
    rintro rfl
    exact absurd hk (by decide)
  have hhead : ∀ d, d ∉ endings → (k :: r).head? ≠ some d := by
    rintro d hd hkd
    exact hd (Option.some.inj hkd ▸ mem_endings hends)
  have hword : callOrIdentifier expression (k :: r) = .miss (k :: r) := by
    have hstart : startsIdentifier k = false := eq_false_of_endsExpression (by decide) hends
    exact bind_miss (by simp [identifier, hstart])
  have hsplit : splitVerbatim 0 .outside (k :: r) = ([], k :: r) := by simp [splitVerbatim, hk]
  refine ⟨k :: r, ?_⟩
  rw [expression_eq, bind_apply]
  simp only [gap, skip, hs, expressionShape]
  rw [orElse_miss (closed_miss hint), orElse_miss (closed_miss (stringLiteral_miss (hhead _ (by decide)) _)),
    orElse_miss (closed_miss (dictionary_miss (hhead _ (by decide)) _)),
    orElse_miss (closed_miss hword)]
  simp [verbatim, hsplit, trim, trimStart, trimEnd]

end Reader
end SourceMacros

import Mathlib.Data.List.Basic
import Mathlib.Data.List.TakeWhile
import SourceMacros.Json.Printer
import SourceMacros.Json.Scan

/-! Strings and integers are scanned off the text that is written for them, whatever stands behind:
`stringAt_escaped` and `scanNumber_written`. -/

namespace SourceMacros.Json

section Strings

theorem unicodeEscape_control {n : Nat} (hn : n < 0x20) (s : List Char) :
    unicodeEscape ('0' :: '0' :: (n / 16).digitChar :: (n % 16).digitChar :: s) =
      .ok (some [Char.ofNat n], s) := by
  have hdigits : ∀ n < 0x20,
      Text.byteSize ['0', '0', (n / 16).digitChar, (n % 16).digitChar] = 4 ∧
        ['0', '0', (n / 16).digitChar, (n % 16).digitChar].mapM hexDigit? =
          some [0, 0, n / 16, n % 16] ∧
        isLeadUnit n = false ∧ isTrailUnit n = false := by decide
  obtain ⟨hsize, hvalues, hlead, htrail⟩ := hdigits n hn
  have hunit : hexUnit ('0' :: '0' :: (n / 16).digitChar :: (n % 16).digitChar :: s) = .ok (n, s) := by
    unfold hexUnit
    simp only [List.take_succ_cons, List.take_zero, List.drop_succ_cons, List.drop_zero, hsize, hvalues,
      Nat.lt_irrefl, if_false, List.foldl_cons, List.foldl_nil]
    congr 2
    omega
  rw [unicodeEscape, hunit]
  change (if isLeadUnit n = true then _ else if isTrailUnit n = true then _ else _) = _
  rw [if_neg (by simp [hlead]), if_neg (by simp [htrail])]
  rfl

theorem stringUnit_escaped (c : Char) (s : List Char) :
    stringUnit (escaped c ++ s) = .ok (some [c], s) := by
  unfold escaped
  split
  case h_8 hquote hslash hline hreturn htab hback hfeed =>
    split
    case isTrue hcontrol =>
      have hescape := unicodeEscape_control hcontrol s
      rwa [Char.ofNat_toNat] at hescape
    case isFalse hgraphic =>
      have hne : c ≠ '\\' := hslash
      rw [List.singleton_append, stringUnit]
      · rw [if_neg hgraphic]
      all_goals simp [hne]
  all_goals rfl

theorem head?_escaped (c : Char) (s : List Char) : (escaped c ++ s).head? ≠ some '"' := by
  unfold escaped
  split
  case h_8 hquote _ _ _ _ _ _ =>
    split
    case isTrue => simp
    case isFalse => simpa using hquote
  all_goals simp

theorem escaped_ne_nil (c : Char) : escaped c ≠ [] := by
  unfold escaped
  split
  case h_8 => split <;> simp
  all_goals simp

theorem scanString_escaped (text rest : List Char) {n : Nat} (hn : text.length < n) :
    scanString n (text.flatMap escaped ++ '"' :: rest) = ⟨some text, .ok rest⟩ := by
  induction text generalizing n with
  | nil =>
    obtain ⟨n, rfl⟩ := Nat.exists_eq_succ_of_ne_zero (Nat.ne_zero_of_lt hn)
    rfl
  | cons c text ih =>
    obtain ⟨n, rfl⟩ := Nat.exists_eq_succ_of_ne_zero (Nat.ne_zero_of_lt hn)
    have hunit := stringUnit_escaped c (text.flatMap escaped ++ '"' :: rest)
    have hhead := head?_escaped c (text.flatMap escaped ++ '"' :: rest)
    rw [List.flatMap_cons, List.append_assoc, scanString]
    · simp only [hunit, ih (Nat.lt_of_succ_lt_succ hn)]
      rfl
    · intro r hr
      rw [hr] at hhead
      exact hhead rfl

theorem length_le_flatMap_escaped (text : List Char) : text.length ≤ (text.flatMap escaped).length := by
  induction text with
  | nil => exact le_rfl
  | cons c text ih =>
    have hpos := List.length_pos_iff.2 (escaped_ne_nil c)
    rw [List.flatMap_cons, List.length_append, List.length_cons]
    omega

theorem stringAt_escaped (text rest : List Char) :
    stringAt (text.flatMap escaped ++ '"' :: rest) = ⟨some text, .ok rest⟩ := by
  refine scanString_escaped text rest ?_
  have hlength := length_le_flatMap_escaped text
  rw [List.length_append]
  omega

theorem scanStringValue_escaped (text : String) (rest : List Char) :
    scanStringValue (text.toList.flatMap escaped ++ '"' :: rest) = (.string text, some rest) := by
  simp only [scanStringValue, stringAt_escaped, String.ofList_toList]

end Strings

section Numbers

/-- Nothing that goes on with a number. -/
def EndsNumber (s : List Char) : Prop :=
  ∀ c ∈ s.head?, c.isDigit = false ∧ c ≠ '.' ∧ c ≠ 'e' ∧ c ≠ 'E'

theorem head?_toDigits {n : Nat} (hn : n ≠ 0) : (Nat.toDigits 10 n).head? ≠ some '0' := by
  induction n using Nat.strongRecOn with
  | _ n ih =>
    rw [Nat.toDigits_eq_if (by decide)]
    split
    case isTrue hlt =>
      have hfirst : ∀ n < 10, n ≠ 0 → n.digitChar ≠ '0' := by decide
      simpa using hfirst n hlt hn
    case isFalse hge =>
      rw [List.head?_append_of_ne_nil _ Nat.toDigits_ne_nil]
      exact ih (n / 10) (by omega) (by omega)

theorem digitsValue_toDigits (n : Nat) : Numeral.digitsValue (Nat.toDigits 10 n) = n :=
  Nat.ofDigitChars_toDigits (by decide) (by decide)

variable {rest : List Char}

theorem digits_toDigits (n : Nat) (h : EndsNumber rest) :
    digits (Nat.toDigits 10 n ++ rest) = .ok (Nat.toDigits 10 n, rest) := by
  have hdigits : ∀ c ∈ Nat.toDigits 10 n, c.isDigit = true := fun c hc =>
    Nat.isDigit_of_mem_toDigits (by decide) (by decide) hc
  have hrest : rest.takeWhile Char.isDigit = [] ∧ rest.dropWhile Char.isDigit = rest := by
    cases rest with
    | nil => exact ⟨rfl, rfl⟩
    | cons c rest => simp [(h c rfl).1]
  have htake : (Nat.toDigits 10 n ++ rest).takeWhile Char.isDigit = Nat.toDigits 10 n := by
    rw [List.takeWhile_append_of_pos hdigits, hrest.1, List.append_nil]
  have hdrop : (Nat.toDigits 10 n ++ rest).dropWhile Char.isDigit = rest := by
    rw [List.dropWhile_append_of_pos hdigits, hrest.2]
  simp [digits, htake, hdrop, Nat.toDigits_ne_nil]

theorem wholeDigits_toDigits (n : Nat) (h : EndsNumber rest) :
    wholeDigits (Nat.toDigits 10 n ++ rest) = .ok (Nat.toDigits 10 n, rest) := by
  have hlead : ¬ ((Nat.toDigits 10 n).head? = some '0' ∧ 1 < (Nat.toDigits 10 n).length) := by
    rintro ⟨hhead, hlength⟩
    by_cases hn : n = 0
    · subst hn
      exact absurd hlength (by decide)
    · exact head?_toDigits hn hhead
  rw [wholeDigits, digits_toDigits n h]
  change (if _ then _ else _) = _
  simp only [Bool.and_eq_true, decide_eq_true_eq]
  rw [if_neg hlead]

theorem fractionDigits_of_endsNumber (h : EndsNumber rest) : fractionDigits rest = .ok (none, rest) := by
  cases rest with
  | nil => rfl
  | cons c rest =>
    have hpoint : c ≠ '.' := (h c rfl).2.1
    simp [fractionDigits, hpoint]

theorem exponentDigits_of_endsNumber (h : EndsNumber rest) : exponentDigits rest = .ok (none, rest) := by
  cases rest with
  | nil => rfl
  | cons c rest =>
    have hletter : ¬ (c = 'e' ∨ c = 'E') := by
      rw [not_or]
      exact (h c rfl).2.2
    simp only [exponentDigits, Bool.or_eq_true, decide_eq_true_eq, if_neg hletter]

theorem numeral_of_wholeDigits {s whole : List Char} (h : EndsNumber rest)
    (hwhole : wholeDigits (if s.head? = some '-' then s.tail else s) = .ok (whole, rest)) :
    numeral s = .ok (⟨decide (s.head? = some '-'), whole, none, none⟩, rest) := by
  rw [numeral]
  simp only [hwhole]
  change (fractionDigits rest >>= _) = _
  rw [fractionDigits_of_endsNumber h]
  change (exponentDigits rest >>= _) = _
  rw [exponentDigits_of_endsNumber h]
  rfl

theorem head?_toDigits_append (n : Nat) (rest : List Char) :
    (Nat.toDigits 10 n ++ rest).head? ≠ some '-' := by
  rw [List.head?_append_of_ne_nil _ Nat.toDigits_ne_nil]
  intro hsign
  have hdigit := Nat.isDigit_of_mem_toDigits (by decide) (by decide) (List.mem_of_mem_head? hsign)
  exact absurd hdigit (by decide)

theorem numeral_toDigits (n : Nat) (h : EndsNumber rest) :
    numeral (Nat.toDigits 10 n ++ rest) = .ok (⟨false, Nat.toDigits 10 n, none, none⟩, rest) := by
  have hsign := head?_toDigits_append n rest
  have hread := numeral_of_wholeDigits (s := Nat.toDigits 10 n ++ rest) h
    (by rw [if_neg hsign]; exact wholeDigits_toDigits n h)
  rwa [decide_eq_false hsign] at hread

theorem numeral_minus (n : Nat) (h : EndsNumber rest) :
    numeral ('-' :: (Nat.toDigits 10 n ++ rest)) = .ok (⟨true, Nat.toDigits 10 n, none, none⟩, rest) :=
  numeral_of_wholeDigits h (wholeDigits_toDigits n h)

/-- Integers of sixty-four bits are nowhere near too great for a double. -/
theorem isHuge_eq_false (negative : Bool) {n : Nat} (hn : n < Nat.pow 2 64) :
    Numeral.isHuge ⟨negative, Nat.toDigits 10 n, none, none⟩ = false := by
  have hlength : (Nat.toDigits 10 n).length ≤ 20 :=
    (Nat.length_toDigits_le_iff (by decide) (by decide)).2 (Nat.lt_trans hn (by decide))
  unfold Numeral.isHuge
  simp only [Option.getD_none, List.append_nil, digitsValue_toDigits, List.length_nil]
  rw [if_pos]
  simp only [Bool.or_eq_true, decide_eq_true_eq]
  omega

theorem draft_toDigits {n : Nat} (hn : n < Nat.pow 2 64) :
    Numeral.draft ⟨false, Nat.toDigits 10 n, none, none⟩ = .integer n := by
  rw [Numeral.draft, isHuge_eq_false false hn]
  simp only [Bool.false_eq_true, if_false, digitsValue_toDigits]

theorem draft_minus {n : Nat} (hn : n + 1 < Nat.pow 2 64) :
    Numeral.draft ⟨true, Nat.toDigits 10 (n + 1), none, none⟩ = .integer (.negSucc n) := by
  rw [Numeral.draft, isHuge_eq_false true hn]
  simp only [Bool.false_eq_true, if_false, if_true, digitsValue_toDigits, if_neg (Nat.succ_ne_zero n)]
  rfl

/-- An integer is read off what is written for it, if nothing goes on with the number. -/
theorem scanNumber_written {n : Int} (hn : n.natAbs < Nat.pow 2 64) (h : EndsNumber rest) :
    scanNumber (integerWritten n ++ rest) = (.integer n, some rest) := by
  cases n with
  | ofNat n =>
    rw [scanNumber, integerWritten, numeral_toDigits n h]
    exact congrArg (·, some rest) (draft_toDigits hn)
  | negSucc n =>
    rw [scanNumber, integerWritten, List.cons_append, numeral_minus (n + 1) h]
    exact congrArg (·, some rest) (draft_minus hn)

end Numbers

end SourceMacros.Json

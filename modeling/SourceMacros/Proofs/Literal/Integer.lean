import Mathlib.Data.List.Forall2
import Mathlib.Data.Nat.Digits.Defs
import Mathlib.Tactic.IntervalCases
import SourceMacros.Expression.Literal

/-! The value of an integer literal is the integer that its digits denote in the base that stands before
them, if 64 bits hold it; no other text has a value, `integerValue_iff_denotes`. -/

namespace SourceMacros.Literal

/-- The bases in which an integer may be spelled. -/
inductive Base where
  | decimal
  | hexadecimal
  | octal
  | binary
  deriving DecidableEq

namespace Base

def radix : Base → Nat
  | .decimal => 10
  | .hexadecimal => 16
  | .octal => 8
  | .binary => 2

def lead : Base → List Char
  | .decimal => []
  | .hexadecimal => ['0', 'x']
  | .octal => ['0', 'o']
  | .binary => ['0', 'b']

theorem radix_le (base : Base) : base.radix ≤ 16 := by
  cases base <;> decide

end Base

/-- The character stands for the digit; letters may be in either case. -/
def Digit (radix d : Nat) (c : Char) : Prop :=
  d < radix ∧ (c = d.digitChar ∨ c = d.digitChar.toUpper)

/-- An integer as it is spelled: a minus or none, the base, then digits and underscores. -/
structure Spelling where
  negative : Bool
  base : Base
  digits : List Char

namespace Spelling

def unsigned (n : Spelling) : List Char := n.base.lead ++ n.digits

def written (n : Spelling) : List Char := if n.negative then '-' :: n.unsigned else n.unsigned

def literal (n : Spelling) : Expression := .integer (String.ofList n.written)

def signed (n : Spelling) (size : Nat) : Int := if n.negative then -size else size

/-- A digit comes first, and the digits denote the size; the underscores among them do not count. -/
structure Denotes (n : Spelling) (size : Nat) : Prop where
  leads : ∃ c ∈ n.digits.head?, c ≠ '_'
  value : ∃ ds, List.Forall₂ (Digit n.base.radix) ds (n.digits.filter (· != '_')) ∧
    size = Nat.ofDigits n.base.radix ds.reverse

end Spelling

section Digits

variable {radix : Nat}

theorem digitValue?_digitChar {d : Nat} (h : d < 16) (hd : d < radix) :
    digitValue? radix d.digitChar = some d ∧ digitValue? radix d.digitChar.toUpper = some d := by
  interval_cases d <;> exact ⟨if_pos hd, if_pos hd⟩

theorem digit_of_digitValue? {d : Nat} {c : Char} (hradix : radix ≤ 16)
    (h : digitValue? radix c = some d) : Digit radix d c := by
  obtain ⟨n, hn⟩ : ∃ n, c.toNat = n := ⟨_, rfl⟩
  obtain rfl : Char.ofNat n = c := by rw [← hn, Char.ofNat_toNat]
  simp only [digitValue?, hn] at h
  obtain ⟨hd, h⟩ := Option.ite_none_right_eq_some.1 h
  obtain rfl := Option.some.inj h
  refine ⟨hd, ?_⟩
  -- The ranges of the three kinds of digits are cut off at the radix.
  by_cases hdigit : (Char.ofNat n).isDigit = true
  · obtain ⟨hfirst, hlast⟩ := Char.isDigit_iff_toNat.1 hdigit
    rw [hn] at hfirst hlast
    have hfirst : 0x30 ≤ n := hfirst
    have hlast : n ≤ 0x39 := hlast
    rw [if_pos hdigit]
    left
    interval_cases n <;> rfl
  by_cases hlower : (Char.ofNat n).isLower = true
  · obtain ⟨hfirst, -⟩ := Bool.and_eq_true_iff.1 hlower
    have hfirst : 0x61 ≤ (Char.ofNat n).toNat := of_decide_eq_true hfirst
    rw [hn] at hfirst
    rw [if_neg hdigit, if_pos hlower] at hd ⊢
    have hlast : n - 0x61 + 10 < radix := hd
    left
    have hend : n ≤ 0x66 := by omega
    interval_cases n <;> rfl
  by_cases hupper : (Char.ofNat n).isUpper = true
  · have hfirst : 0x41 ≤ (Char.ofNat n).toNat := (of_decide_eq_true hupper).1
    rw [hn] at hfirst
    rw [if_neg hdigit, if_neg hlower, if_pos hupper] at hd ⊢
    have hlast : n - 0x41 + 10 < radix := hd
    right
    have hend : n ≤ 0x46 := by omega
    interval_cases n <;> rfl
  · rw [if_neg hdigit, if_neg hlower, if_neg hupper] at hd
    exact absurd hd (lt_irrefl radix)

theorem digitValue?_eq_some (hradix : radix ≤ 16) {d : Nat} {c : Char} :
    digitValue? radix c = some d ↔ Digit radix d c := by
  refine ⟨digit_of_digitValue? hradix, ?_⟩
  rintro ⟨hd, rfl | rfl⟩
  · exact (digitValue?_digitChar (hd.trans_le hradix) hd).1
  · exact (digitValue?_digitChar (hd.trans_le hradix) hd).2

theorem Digit.ne_underscore (hradix : radix ≤ 16) {d : Nat} {c : Char} (h : Digit radix d c) : c ≠ '_' := by
  rintro rfl
  have hvalue := (digitValue?_eq_some hradix).2 h
  simp [digitValue?] at hvalue

theorem mapM_digitValue?_eq_some (hradix : radix ≤ 16) {cs : List Char} {ds : List Nat} :
    cs.mapM (digitValue? radix) = some ds ↔ List.Forall₂ (Digit radix) ds cs := by
  induction cs generalizing ds with
  | nil => simp [eq_comm]
  | cons c cs ih =>
    rw [List.mapM_cons, List.forall₂_cons_right_iff]
    simp only [Option.bind_eq_bind, Option.bind_eq_some_iff, digitValue?_eq_some hradix, ih]
    simp [eq_comm]

theorem foldl_eq_ofDigits (ds : List Nat) :
    ds.foldl (fun n d => n * radix + d) 0 = Nat.ofDigits radix ds.reverse := by
  rw [Nat.ofDigits_eq_foldr, List.foldr_reverse]
  simp only [Nat.cast_id, Nat.add_comm, Nat.mul_comm]

theorem magnitude?_eq_some (hradix : radix ≤ 16) {cs : List Char} {m : Nat} :
    magnitude? radix cs = some m ↔ (∃ c ∈ cs.head?, c ≠ '_') ∧
      ∃ ds, List.Forall₂ (Digit radix) ds (cs.filter (· != '_')) ∧ m = Nat.ofDigits radix ds.reverse := by
  cases cs with
  | nil => simp [magnitude?]
  | cons c cs =>
    by_cases hc : c = '_'
    · subst hc
      simp [magnitude?]
    · have hlead : ((c :: cs).isEmpty || (c :: cs).head? == some '_') = false := by simp [hc]
      rw [magnitude?, hlead]
      simp only [Bool.false_eq_true, if_false, Option.map_eq_some_iff, mapM_digitValue?_eq_some hradix,
        foldl_eq_ofDigits]
      constructor
      · rintro ⟨ds, hds, rfl⟩
        exact ⟨⟨c, rfl, hc⟩, ds, hds, rfl⟩
      · rintro ⟨-, ds, hds, rfl⟩
        exact ⟨ds, hds, rfl⟩

theorem exists_digit_of_mem {ds : List Nat} {cs : List Char} (h : List.Forall₂ (Digit radix) ds cs) :
    ∀ c ∈ cs, ∃ d, Digit radix d c := by
  induction h with
  | nil => simp
  | cons hd _ ih => exact List.forall_mem_cons.2 ⟨⟨_, hd⟩, ih⟩

end Digits

theorem exists_base (s : List Char) :
    ∃ base : Base, s = base.lead ++ (splitRadix s).2 ∧ (splitRadix s).1 = base.radix := by
  unfold splitRadix
  split
  · exact ⟨.hexadecimal, rfl, rfl⟩
  · exact ⟨.octal, rfl, rfl⟩
  · exact ⟨.binary, rfl, rfl⟩
  · exact ⟨.decimal, rfl, rfl⟩

namespace Spelling

variable {n : Spelling} {m : Nat}

theorem Denotes.not_mem (h : n.Denotes m) {c : Char} (hne : c ≠ '_')
    (hc : digitValue? n.base.radix c = none) : c ∉ n.digits := by
  intro hmem
  obtain ⟨ds, hds, -⟩ := h.value
  obtain ⟨d, hd⟩ := exists_digit_of_mem hds c (List.mem_filter.2 ⟨hmem, by simpa using hne⟩)
  rw [(digitValue?_eq_some n.base.radix_le).2 hd] at hc
  cases hc

theorem Denotes.splitRadix_unsigned (h : n.Denotes m) :
    splitRadix n.unsigned = (n.base.radix, n.digits) := by
  obtain ⟨negative, base, digits⟩ := n
  cases base with
  | hexadecimal => rfl
  | octal => rfl
  | binary => rfl
  | decimal =>
    have hmark : 'x' ∉ digits ∧ 'o' ∉ digits ∧ 'b' ∉ digits :=
      ⟨h.not_mem (by decide) rfl, h.not_mem (by decide) rfl, h.not_mem (by decide) rfl⟩
    change splitRadix digits = (10, digits)
    unfold splitRadix
    split
    case h_1 => simp at hmark
    case h_2 => simp at hmark
    case h_3 => simp at hmark
    case h_4 => rfl

theorem Denotes.head?_unsigned (h : n.Denotes m) : n.unsigned.head? ≠ some '-' := by
  have hsign : '-' ∉ n.digits := h.not_mem (by decide) (by cases n.base <;> rfl)
  obtain ⟨negative, base, digits⟩ := n
  cases base with
  | decimal => exact fun hhead => hsign (List.mem_of_mem_head? hhead)
  | hexadecimal => simp [unsigned, Base.lead]
  | octal => simp [unsigned, Base.lead]
  | binary => simp [unsigned, Base.lead]

/-- Underscores behind the first digit do not count. -/
theorem Denotes.underscore (h : n.Denotes m) {a b : List Char} (hdigits : n.digits = a ++ b) (ha : a ≠ []) :
    Denotes { n with digits := a ++ '_' :: b } m := by
  obtain ⟨c, t, rfl⟩ := List.exists_cons_of_ne_nil ha
  obtain ⟨hleads, hvalue⟩ := h
  rw [hdigits] at hleads hvalue
  have hfilter : (c :: t ++ '_' :: b).filter (· != '_') = (c :: t ++ b).filter (· != '_') := by
    rw [List.filter_append, List.filter_append]
    rfl
  exact ⟨hleads, hfilter ▸ hvalue⟩

theorem digit_zero (base : Base) : Digit base.radix 0 '0' := ⟨by cases base <;> decide, .inl rfl⟩

/-- Zeros in front of the first digit do not count. -/
theorem Denotes.zeros (h : n.Denotes m) (k : Nat) :
    Denotes { n with digits := List.replicate k '0' ++ n.digits } m := by
  induction k with
  | zero => exact h
  | succ k ih =>
    obtain ⟨ds, hds, rfl⟩ := ih.value
    refine ⟨⟨'0', rfl, by decide⟩, 0 :: ds, ?_, ?_⟩
    · rw [List.replicate_succ, List.cons_append, List.filter_cons_of_pos (by decide)]
      exact .cons (digit_zero n.base) hds
    · rw [List.reverse_cons, Nat.ofDigits_append_zero]

/-- Every number is denoted in every base. -/
theorem exists_denotes (negative : Bool) (base : Base) (m : Nat) :
    ∃ n : Spelling, n.negative = negative ∧ n.base = base ∧ n.Denotes m := by
  have hradix : 1 < base.radix := by cases base <;> decide
  have hdigits : ∀ d ∈ (base.radix.digits m).reverse, Digit base.radix d d.digitChar := fun d hd =>
    ⟨Nat.digits_lt_base hradix (List.mem_reverse.1 hd), .inl rfl⟩
  have hfilter : ((base.radix.digits m).reverse.map Nat.digitChar).filter (· != '_') =
      (base.radix.digits m).reverse.map Nat.digitChar := by
    refine List.filter_eq_self.2 (List.forall_mem_map.2 fun d hd => ?_)
    simp [Digit.ne_underscore base.radix_le (hdigits d hd)]
  refine ⟨⟨negative, base, '0' :: (base.radix.digits m).reverse.map Nat.digitChar⟩, rfl, rfl,
    ⟨'0', rfl, by decide⟩, 0 :: (base.radix.digits m).reverse, ?_, ?_⟩
  · rw [List.filter_cons_of_pos (by decide), hfilter]
    exact .cons (digit_zero base) (List.forall₂_map_right_iff.2 (List.forall₂_same.2 hdigits))
  · rw [List.reverse_cons, List.reverse_reverse, Nat.ofDigits_append_zero, Nat.ofDigits_digits]

end Spelling

open Spelling

/-- Behind the sign stands the base of the number and its digits. -/
theorem magnitude?_splitRadix (negative : Bool) {r : List Char} {m : Nat} :
    magnitude? (splitRadix r).1 (splitRadix r).2 = some m ↔
      ∃ n : Spelling, n.negative = negative ∧ n.unsigned = r ∧ n.Denotes m := by
  constructor
  · intro h
    obtain ⟨base, hr, hradix⟩ := exists_base r
    rw [hradix] at h
    obtain ⟨hleads, hvalue⟩ := (magnitude?_eq_some base.radix_le).1 h
    exact ⟨⟨negative, base, (splitRadix r).2⟩, rfl, hr.symm, hleads, hvalue⟩
  · rintro ⟨n, -, rfl, h⟩
    rw [h.splitRadix_unsigned]
    exact (magnitude?_eq_some n.base.radix_le).2 ⟨h.leads, h.value⟩

theorem signedValue?_eq_some {s : List Char} {v : Int} :
    signedValue? s = some v ↔ ∃ (n : Spelling) (m : Nat), n.written = s ∧ n.Denotes m ∧ n.signed m = v := by
  unfold signedValue?
  split
  case h_1 r =>
    simp only [Option.map_eq_some_iff, magnitude?_splitRadix true]
    constructor
    · rintro ⟨m, ⟨n, hneg, rfl, hm⟩, rfl⟩
      exact ⟨n, m, if_pos hneg, hm, if_pos hneg⟩
    · rintro ⟨n, m, hwritten, hm, rfl⟩
      unfold written at hwritten
      split at hwritten
      case isTrue hneg => exact ⟨m, ⟨n, hneg, List.tail_eq_of_cons_eq hwritten, hm⟩, (if_pos hneg).symm⟩
      case isFalse hneg => exact absurd (by rw [hwritten]; rfl) hm.head?_unsigned
  case h_2 hminus =>
    simp only [Option.map_eq_some_iff, magnitude?_splitRadix false]
    constructor
    · rintro ⟨m, ⟨n, hneg, rfl, hm⟩, rfl⟩
      exact ⟨n, m, by simp [written, hneg], hm, by simp [signed, hneg]⟩
    · rintro ⟨n, m, rfl, hm, rfl⟩
      cases hneg : n.negative with
      | true => exact absurd (by simp [written, hneg]) (hminus n.unsigned)
      | false => exact ⟨m, ⟨n, hneg, by simp [written, hneg], hm⟩, by simp [signed, hneg]⟩

theorem inRange_iff {v : Int} : inRange v = true ↔ -2 ^ 63 ≤ v ∧ v ≤ 2 ^ 63 - 1 := by
  rw [inRange, Bool.and_eq_true, decide_eq_true_eq, decide_eq_true_eq]
  rfl

theorem Spelling.Denotes.integerValue?_literal {n : Spelling} {m : Nat} (h : n.Denotes m) :
    n.literal.integerValue? = if inRange (n.signed m) then some (n.signed m) else none := by
  have hsigned : signedValue? n.written = some (n.signed m) :=
    signedValue?_eq_some.2 ⟨n, m, rfl, h, rfl⟩
  rw [literal, Expression.integerValue?, integerValue?, String.toList_ofList, hsigned]
  rfl

theorem integerValue?_eq_some {text : String} {v : Int} :
    integerValue? text = some v ↔
      (∃ (n : Spelling) (m : Nat), n.written = text.toList ∧ n.Denotes m ∧ n.signed m = v) ∧
        -2 ^ 63 ≤ v ∧ v ≤ 2 ^ 63 - 1 := by
  rw [integerValue?, Option.filter_eq_some_iff, signedValue?_eq_some, inRange_iff]

/-- An integer literal has a value just where it is spelled in one of the bases and fits in 64 bits. Every
such integer can be spelled, and underscores and leading zeros make no difference. -/
theorem integerValue_iff_denotes :
    (∀ (text : String) (v : Int), (Expression.integer text).integerValue? = some v ↔
      (∃ (n : Spelling) (m : Nat), n.written = text.toList ∧ n.Denotes m ∧ n.signed m = v) ∧
        -2 ^ 63 ≤ v ∧ v ≤ 2 ^ 63 - 1) ∧
    (∀ (base : Base) (v : Int), -2 ^ 63 ≤ v → v ≤ 2 ^ 63 - 1 →
      ∃ n : Spelling, n.base = base ∧ n.literal.integerValue? = some v) ∧
    ∀ (n : Spelling) (m : Nat) (v : Int), n.Denotes m → n.literal.integerValue? = some v →
      (∀ a b, n.digits = a ++ b → a ≠ [] →
        (literal { n with digits := a ++ '_' :: b }).integerValue? = some v) ∧
      ∀ k, (literal { n with digits := List.replicate k '0' ++ n.digits }).integerValue? = some v := by
  refine ⟨fun _ _ => integerValue?_eq_some, fun base v hlow hhigh => ?_, fun n m v hm hv => ?_⟩
  · obtain ⟨n, hneg, hbase, hm⟩ := exists_denotes (v < 0) base v.natAbs
    have hv : n.signed v.natAbs = v := by
      simp only [signed, hneg, decide_eq_true_eq]
      omega
    exact ⟨n, hbase, by rw [hm.integerValue?_literal, hv, if_pos (inRange_iff.2 ⟨hlow, hhigh⟩)]⟩
  · rw [hm.integerValue?_literal] at hv
    exact ⟨fun a b hdigits ha => (hm.underscore hdigits ha).integerValue?_literal.trans hv,
      fun k => (hm.zeros k).integerValue?_literal.trans hv⟩

/-- The least integer in base sixteen, and the same with an underscore and with zeros. -/
theorem integerValue_iff_denotes_least :
    (Expression.integer "-0x8000_0000_0000_0000").integerValue? = some (-2 ^ 63) ∧
    (∃ n : Spelling, n.base = .binary ∧ n.literal.integerValue? = some (-2 ^ 63)) ∧
    (Expression.integer "-0x8000_0000_0000_000_0").integerValue? = some (-2 ^ 63) ∧
    (Expression.integer "-0x008000_0000_0000_0000").integerValue? = some (-2 ^ 63) := by
  have hdigits : Spelling.Denotes ⟨true, .hexadecimal, "8000_0000_0000_0000".toList⟩ (2 ^ 63) :=
    ⟨⟨'8', rfl, by decide⟩, 8 :: List.replicate 15 0,
      (mapM_digitValue?_eq_some (by decide)).1 (by decide), by decide⟩
  have hvalue := (integerValue_iff_denotes.1 "-0x8000_0000_0000_0000" (-2 ^ 63)).2
    ⟨⟨_, _, rfl, hdigits, rfl⟩, by decide, by decide⟩
  have hsame := integerValue_iff_denotes.2.2 _ _ _ hdigits hvalue
  exact ⟨hvalue, integerValue_iff_denotes.2.1 _ _ (by decide) (by decide),
    hsame.1 "8000_0000_0000_000".toList "0".toList rfl (by decide), hsame.2 2⟩

end SourceMacros.Literal

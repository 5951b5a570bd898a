import Mathlib.Data.List.TakeWhile
import SourceMacros.Proofs.Reader.Related

/-! What each combination of readers finds: from an outcome back to the outcomes of the parts, and
from a text put together by hand to the outcome. -/

namespace SourceMacros

/-- Blanks that may stand between two words of source. -/
def Text.Gap (g : List Char) : Prop := ∀ c ∈ g, Text.isGap c = true

/-- No character that goes on with an identifier stands in front. -/
def Text.EndsWord (s : List Char) : Prop := ∀ c ∈ s.head?, Text.continuesIdentifier c = false

namespace Text

theorem Gap.nil : Gap [] := by simp [Gap]

theorem Gap.append {g h : List Char} (hg : Gap g) (hh : Gap h) : Gap (g ++ h) := by
  intro c hc
  rcases List.mem_append.1 hc with hc | hc
  · exact hg c hc
  · exact hh c hc

theorem gap_of_spaces {h : List Char} (hh : ∀ c ∈ h, isSpace c = true) : Gap h :=
  fun c hc => isGap_of_isSpace (hh c hc)

theorem endsWord_cons {c : Char} {s : List Char} (h : continuesIdentifier c = false) :
    EndsWord (c :: s) := by
  intro d hd
  rw [← Option.some.inj hd]
  exact h

theorem Gap.dropWhile_append {g : List Char} (hg : Gap g) (s : List Char) :
    (g ++ s).dropWhile isGap = s.dropWhile isGap := List.dropWhile_append_of_pos hg

/-- Every text begins with the longest gap there is. -/
theorem exists_gap (s : List Char) : ∃ g, Gap g ∧ s = g ++ s.dropWhile isGap :=
  ⟨s.takeWhile isGap, fun _ hc => List.mem_takeWhile_imp hc, List.takeWhile_append_dropWhile.symm⟩

theorem dropWhile_cons_of_neg {p : Char → Bool} {c : Char} {s : List Char} (h : p c = false) :
    (c :: s).dropWhile p = c :: s := by simp [h]

theorem head?_dropWhile (p : Char → Bool) (s : List Char) :
    ∀ c ∈ (s.dropWhile p).head?, p c = false := by
  intro c hc
  have h := List.head?_dropWhile_not p s
  cases hs : s.dropWhile p with
  | nil => simp [hs] at hc
  | cons d t => simp_all

/-- A stretch never goes on into a text that begins with another character. -/
theorem takeWhile_append_of_head {p : Char → Bool} {r : List Char} (hr : ∀ c ∈ r.head?, p c = false)
    (s : List Char) : (s ++ r).takeWhile p = s.takeWhile p := by
  induction s with
  | nil =>
    cases r with
    | nil => rfl
    | cons c r => simp [hr c (by simp)]
  | cons d s ih =>
    by_cases hd : p d = true
    · simp [hd, ih]
    · simp [hd]

theorem dropWhile_append_of_head {p : Char → Bool} {r : List Char} (hr : ∀ c ∈ r.head?, p c = false)
    (s : List Char) : (s ++ r).dropWhile p = s.dropWhile p ++ r := by
  induction s with
  | nil =>
    cases r with
    | nil => rfl
    | cons c r => simp [hr c (by simp)]
  | cons d s ih =>
    by_cases hd : p d = true
    · simp [hd, ih]
    · simp [hd]

theorem takeWhile_append_eq {p : Char → Bool} {u r : List Char} (hu : ∀ c ∈ u, p c = true)
    (hr : ∀ c ∈ r.head?, p c = false) : (u ++ r).takeWhile p = u := by
  rw [takeWhile_append_of_head hr, List.takeWhile_eq_self_iff.2 hu]

theorem dropWhile_append_eq {p : Char → Bool} {u r : List Char} (hu : ∀ c ∈ u, p c = true)
    (hr : ∀ c ∈ r.head?, p c = false) : (u ++ r).dropWhile p = r := by
  rw [dropWhile_append_of_head hr, List.dropWhile_eq_nil_iff.2 hu, List.nil_append]

/-- A text splits in one way only into characters of one kind and what begins with another. -/
theorem span_cancel {p : Char → Bool} {u u' s s' : List Char} {k k' : Char}
    (hu : ∀ c ∈ u, p c = true) (hu' : ∀ c ∈ u', p c = true) (hk : p k = false) (hk' : p k' = false)
    (h : u ++ k :: s = u' ++ k' :: s') : u = u' ∧ k = k' ∧ s = s' := by
  have hdrop := congrArg (List.dropWhile p) h
  rw [List.dropWhile_append_of_pos hu, List.dropWhile_append_of_pos hu', dropWhile_cons_of_neg hk,
    dropWhile_cons_of_neg hk'] at hdrop
  obtain ⟨rfl, rfl⟩ := List.cons.inj hdrop
  exact ⟨List.append_cancel_right h, rfl, rfl⟩

end Text

namespace Reader

open Text

variable {α β : Type} {p q : Reader α}

theorem bind_eq_done {f : α → Reader β} {s r : List Char} {b : β} :
    (p >>= f) s = .done b r ↔ ∃ a t, p s = .done a t ∧ f a t = .done b r := by
  rw [bind_apply]
  cases p s <;> simp [and_assoc]

theorem bind_done {f : α → Reader β} {s t : List Char} {a : α} (h : p s = .done a t) :
    (p >>= f) s = f a t := by rw [bind_apply, h]

theorem bind_miss {f : α → Reader β} {s t : List Char} (h : p s = .miss t) :
    (p >>= f) s = .miss t := by rw [bind_apply, h]

@[simp] theorem pure_eq_done {a b : α} {s r : List Char} :
    (pure a : Reader α) s = .done b r ↔ a = b ∧ s = r := by simp

theorem orElse_eq_done {s r : List Char} {a : α} :
    (p <|> q) s = .done a r ↔ p s = .done a r ∨ (∃ t, p s = .miss t) ∧ q s = .done a r := by
  rw [orElse_apply]
  cases p s <;> simp

theorem orElse_done {s r : List Char} {a : α} (h : p s = .done a r) :
    (p <|> q) s = .done a r := by rw [orElse_apply, h]

theorem orElse_miss {s t : List Char} (h : p s = .miss t) : (p <|> q) s = q s := by
  rw [orElse_apply, h]

theorem optional_eq_done {s r : List Char} {o : Option α} :
    optional p s = .done o r ↔
      (∃ a, o = some a ∧ p s = .done a r) ∨ o = none ∧ r = s ∧ ∃ t, p s = .miss t := by
  unfold optional
  cases p s with
  | done a t =>
    simp only [Outcome.done.injEq, reduceCtorEq, exists_const, and_false, or_false]
    exact ⟨fun h => ⟨a, h.1.symm, rfl, h.2⟩, fun ⟨b, ho, hab, hr⟩ => ⟨by rw [ho, hab], hr⟩⟩
  | miss t => simp [eq_comm]
  | halt t => simp

theorem optional_done {s r : List Char} {a : α} (h : p s = .done a r) :
    optional p s = .done (some a) r := by simp [optional, h]

theorem optional_miss {s t : List Char} (h : p s = .miss t) : optional p s = .done none s := by
  simp [optional, h]

theorem many_eq_nil {s r : List Char} (h : many p s = .done [] r) :
    r = s ∧ ∃ t, p s = .miss t := by
  rw [many_eq] at h
  cases hp : p s with
  | done a t =>
    simp only [hp] at h
    split at h
    · cases hm : many p t <;> simp [hm] at h
    · cases h
  | miss t =>
    simp only [hp, Outcome.done.injEq, true_and] at h
    exact ⟨h.symm, t, rfl⟩
  | halt t => simp [hp] at h

theorem many_eq_cons {s r : List Char} {a : α} {as : List α} (h : many p s = .done (a :: as) r) :
    ∃ t, p s = .done a t ∧ t.length < s.length ∧ many p t = .done as r := by
  rw [many_eq] at h
  cases hp : p s with
  | done b t =>
    simp only [hp] at h
    split at h
    case isTrue hlt =>
      cases hm : many p t with
      | done bs t' =>
        simp only [hm, Outcome.done.injEq, List.cons.injEq] at h
        obtain ⟨⟨rfl, rfl⟩, rfl⟩ := h
        exact ⟨t, rfl, hlt, hm⟩
      | miss t' => simp [hm] at h
      | halt t' => simp [hm] at h
    case isFalse => cases h
  | miss t => simp [hp] at h
  | halt t => simp [hp] at h

theorem many_of_miss {s t : List Char} (h : p s = .miss t) : many p s = .done [] s := by
  rw [many_eq, h]

theorem many_of_done {s t r : List Char} {a : α} {as : List α} (h : p s = .done a t)
    (hlt : t.length < s.length) (hm : many p t = .done as r) : many p s = .done (a :: as) r := by
  rw [many_eq, h]
  simp [hlt, hm]

theorem skip_eq_done {test : Char → Bool} {s r : List Char} {a : Unit} :
    skip test s = .done a r ↔ r = s.dropWhile test := by
  simp [skip, eq_comm]

theorem char_eq_done {c : Char} {s r : List Char} {a : Unit} :
    char c s = .done a r ↔ s = c :: r := by
  cases s with
  | nil => simp [char]
  | cons d s =>
    by_cases h : d = c <;> simp [char, h]

@[simp] theorem char_cons (c : Char) (s : List Char) : char c (c :: s) = .done () s := by
  simp [char]

theorem char_miss {c : Char} {s : List Char} (h : s.head? ≠ some c) : char c s = .miss s := by
  cases s with
  | nil => rfl
  | cons d s => simp_all [char]

theorem symbol_apply (c : Char) (s : List Char) : symbol c s = char c (s.dropWhile isGap) := rfl

theorem symbol_eq_done {c : Char} {s r : List Char} {a : Unit} :
    symbol c s = .done a r ↔ s.dropWhile isGap = c :: r := by rw [symbol_apply, char_eq_done]

theorem symbol_done {c : Char} {s r : List Char} (h : s.dropWhile isGap = c :: r) :
    symbol c s = .done () r := symbol_eq_done.2 h

theorem symbol_miss {c : Char} {s : List Char} (h : (s.dropWhile isGap).head? ≠ some c) :
    symbol c s = .miss (s.dropWhile isGap) := char_miss h

theorem symbol_gap {c : Char} {g : List Char} (hg : Gap g) (hc : isGap c = false)
    (s : List Char) : symbol c (g ++ c :: s) = .done () s := by
  rw [symbol_eq_done, hg.dropWhile_append, dropWhile_cons_of_neg hc]

theorem exists_gap_of_symbol {c : Char} {s r : List Char} {a : Unit}
    (h : symbol c s = .done a r) : ∃ g, Gap g ∧ s = g ++ c :: r := by
  obtain ⟨g, hg, hs⟩ := exists_gap s
  exact ⟨g, hg, by rw [hs, symbol_eq_done.1 h]⟩

theorem identifier_append {w r : List Char} (hw : isIdentifierText w = true) (hr : EndsWord r) :
    identifier (w ++ r) = .done (String.ofList w) r := by
  obtain ⟨c, t, rfl, hc, ht⟩ := exists_cons_of_isIdentifierText hw
  simp only [List.cons_append, identifier, hc, if_true, takeWhile_append_eq ht hr,
    dropWhile_append_eq ht hr]

theorem identifier_eq_done {s r : List Char} {n : String} (h : identifier s = .done n r) :
    isIdentifier n = true ∧ s = n.toList ++ r ∧ EndsWord r := by
  cases s with
  | nil => simp [identifier] at h
  | cons c s =>
    simp only [identifier] at h
    split at h
    case isTrue hc =>
      simp only [Outcome.done.injEq] at h
      obtain ⟨rfl, rfl⟩ := h
      refine ⟨?_, ?_, head?_dropWhile _ s⟩
      · have hall : ∀ x ∈ s.takeWhile continuesIdentifier, continuesIdentifier x = true :=
          fun _ hx => List.mem_takeWhile_imp hx
        simp only [isIdentifier, String.toList_ofList, isIdentifierText, hc, Bool.true_and,
          List.all_eq_true]
        exact hall
      · simp [List.takeWhile_append_dropWhile]
    case isFalse => cases h

end Reader
end SourceMacros

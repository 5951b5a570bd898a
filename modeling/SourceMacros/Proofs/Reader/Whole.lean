import SourceMacros.Proofs.Reader.Laws
import SourceMacros.Reader.Source

/-! When a whole text is accepted: it does not nest too deeply, and nothing but a gap is left. -/

namespace SourceMacros.Reader

open Text

variable {α : Type} {p : Reader α} {source : String}

theorem finish_eq_done {s r : List Char} {a : Unit} : finish s = .done a r ↔ s = [] ∧ r = [] := by
  cases s with
  | nil => simp [finish, eq_comm]
  | cons c s => simp [finish]

theorem whole_eq_done {s r : List Char} {a : α} :
    whole p s = .done a r ↔ r = [] ∧ ∃ t, p s = .done a t ∧ t.dropWhile isGap = [] := by
  simp only [whole, bind_eq_done, finish_eq_done, pure_eq_done]
  constructor
  · rintro ⟨b, t, hp, _, _, hgap, _, _, ⟨rfl, rfl⟩, rfl, rfl⟩
    exact ⟨rfl, t, hp, (skip_eq_done.1 hgap).symm⟩
  · rintro ⟨rfl, t, hp, ht⟩
    exact ⟨a, t, hp, (), [], skip_eq_done.2 ht.symm, (), [], ⟨rfl, rfl⟩, rfl, rfl⟩

theorem read_eq_ok {a : α} : read p source = .ok a ↔
    Nesting.tooDeepAt Nesting.limit [] source.toList = none ∧
      ∃ r, p source.toList = .done a r ∧ r.dropWhile isGap = [] := by
  unfold read
  cases hdeep : Nesting.tooDeepAt Nesting.limit [] source.toList with
  | some place => simp
  | none =>
    cases hw : whole p source.toList with
    | done b t =>
      obtain ⟨-, r, hp, hr⟩ := whole_eq_done.1 hw
      simp only [Except.ok.injEq, true_and, hp, Outcome.done.injEq]
      constructor
      · rintro rfl
        exact ⟨r, ⟨rfl, rfl⟩, hr⟩
      · rintro ⟨_, ⟨hab, -⟩, -⟩
        exact hab
    | miss place =>
      simp only [reduceCtorEq, true_and, false_iff, not_exists, not_and]
      intro r hp hr
      rw [whole_eq_done.2 ⟨rfl, r, hp, hr⟩] at hw
      cases hw
    | halt place =>
      simp only [reduceCtorEq, true_and, false_iff, not_exists, not_and]
      intro r hp hr
      rw [whole_eq_done.2 ⟨rfl, r, hp, hr⟩] at hw
      cases hw

theorem read_of_tooDeep {place : List Char}
    (h : Nesting.tooDeepAt Nesting.limit [] source.toList = some place) :
    read p source = .error (.unreadable (.tooDeep (offset source.toList place))) := by
  unfold read
  rw [h]

end SourceMacros.Reader

import SourceMacros.Proofs.Reader.Related

/-! A property of texts that a reader keeps: from a text that has it, the rest has another one, and where
reading fails, the place of failure has one that depends on the kind of failure. Each way of combining
readers keeps what the readers of the parts keep. -/

namespace SourceMacros

/-- The rest of what is read, or the place where reading missed or halted. -/
def Outcome.Leaves {α : Type} (misses halts rests : List Char → Prop) : Outcome α → Prop
  | .done _ r => rests r
  | .miss r => misses r
  | .halt r => halts r

namespace Reader

variable {α β : Type} {misses halts T U V : List Char → Prop}

/-- From texts in `T` the reader leaves rests in `U`. -/
def Keeps (misses halts T U : List Char → Prop) (p : Reader α) : Prop :=
  ∀ ⦃s⦄, T s → (p s).Leaves misses halts U

theorem keeps_pure (a : α) (h : ∀ s, T s → U s) : Keeps misses halts T U (pure a : Reader α) := h

theorem keeps_miss (h : ∀ s, T s → misses s) : Keeps misses halts T U (miss : Reader α) := h

theorem Keeps.bind {p : Reader α} {f : α → Reader β} (h : Keeps misses halts T U p)
    (hf : ∀ a, Keeps misses halts U V (f a)) : Keeps misses halts T V (p >>= f) := by
  intro s hs
  have hp := h hs
  rw [bind_apply]
  cases hps : p s <;> simp only [hps, Outcome.Leaves] at hp ⊢
  case done a r => exact hf a hp
  all_goals exact hp

theorem Keeps.orElse {p q : Reader α} (h : Keeps misses halts T U p) (hq : Keeps misses halts T U q) :
    Keeps misses halts T U (p <|> q) := by
  intro s hs
  have hp := h hs
  rw [orElse_apply]
  cases hps : p s <;> simp only [hps, Outcome.Leaves] at hp ⊢
  case miss r => exact hq hs
  all_goals exact hp

theorem Keeps.optional {p : Reader α} (h : Keeps misses halts T T p) :
    Keeps misses halts T T (optional p) := by
  intro s hs
  have hp := h hs
  unfold Reader.optional
  cases hps : p s <;> simp only [hps, Outcome.Leaves] at hp ⊢
  case miss r => exact hs
  all_goals exact hp

theorem Keeps.many {p : Reader α} (hmiss : ∀ s, T s → misses s) (h : Keeps misses halts T T p) :
    Keeps misses halts T T (many p) := by
  intro s
  induction hn : s.length using Nat.strongRecOn generalizing s with
  | _ n ih =>
    intro hs
    have hp := h hs
    rw [many_eq]
    cases hps : p s <;> simp only [hps, Outcome.Leaves] at hp ⊢
    case done a r =>
      by_cases hlt : r.length < s.length
      · have hm := ih r.length (by omega) (s := r) rfl hp
        rw [if_pos hlt]
        cases hmany : Reader.many p r <;> rw [hmany] at hm <;> exact hm
      · rw [if_neg hlt]
        exact hmiss s hs
    case miss r => exact hs
    case halt r => exact hp

theorem Keeps.separated {separator : Reader Unit} {p : Reader α} (hmiss : ∀ s, T s → misses s)
    (hs : Keeps misses halts T T separator) (h : Keeps misses halts T T p) :
    Keeps misses halts T T (separated separator p) :=
  h.bind fun _ => (Keeps.many hmiss (hs.bind fun _ => h)).bind fun _ => keeps_pure _ fun _ => id

theorem keeps_char {c : Char} (hmiss : ∀ s, T s → misses s) (h : ∀ s, T (c :: s) → U s) :
    Keeps misses halts T U (char c) := by
  intro s hs
  cases s with
  | nil => exact hmiss _ hs
  | cons d s =>
    by_cases hd : d = c
    · subst hd
      rw [char, if_pos rfl]
      exact h s hs
    · rw [char, if_neg hd]
      exact hmiss _ hs

theorem dropWhile_of_drops {test : Char → Bool} (h : ∀ c s, test c = true → T (c :: s) → T s)
    {s : List Char} (hs : T s) : T (s.dropWhile test) := by
  induction s with
  | nil => exact hs
  | cons c s ih =>
    by_cases hc : test c = true
    · rw [List.dropWhile_cons_of_pos hc]
      exact ih (h c s hc hs)
    · rwa [List.dropWhile_cons_of_neg hc]

theorem keeps_skip {test : Char → Bool} (h : ∀ c s, test c = true → T (c :: s) → T s) :
    Keeps misses halts T T (skip test) := fun _ => dropWhile_of_drops h

theorem keeps_identifier (hmiss : ∀ s, T s → misses s)
    (h : ∀ c s, Text.continuesIdentifier c = true → T (c :: s) → T s) :
    Keeps misses halts T T identifier := by
  intro s hs
  cases s with
  | nil => exact hmiss _ hs
  | cons c s =>
    by_cases hc : Text.startsIdentifier c = true
    · rw [identifier, if_pos hc]
      exact dropWhile_of_drops h (h c s (Text.continuesIdentifier_of_starts hc) hs)
    · rw [identifier, if_neg hc]
      exact hmiss _ hs

end Reader
end SourceMacros

import SourceMacros.Reader.Basic

/-! Two readers side by side. From related texts they find the same value and leave related rests, or
both fail in the same way. Each way of combining readers keeps this, so that a relation between the
readers of the parts carries over to the whole. -/

namespace SourceMacros

/-- The same value with rests related by `rests`, or failures of one kind at places related by
`places`. -/
def Outcome.Agree {α : Type} (places rests : List Char → List Char → Prop) :
    Outcome α → Outcome α → Prop
  | .done a r, .done b r' => a = b ∧ rests r r'
  | .miss r, .miss r' => places r r'
  | .halt r, .halt r' => places r r'
  | _, _ => False

theorem Outcome.Agree.mono {α : Type} {places rests rests' : List Char → List Char → Prop}
    {o o' : Outcome α} (h : o.Agree places rests o') (hrests : ∀ r r', rests r r' → rests' r r') :
    o.Agree places rests' o' := by
  cases o <;> cases o' <;> simp only [Outcome.Agree] at h ⊢
  case done.done => exact ⟨h.1, hrests _ _ h.2⟩
  all_goals exact h

namespace Reader

variable {α β : Type} {places T U V : List Char → List Char → Prop}

/-- On texts related by `T` the outcomes agree, with rests related by `U`. -/
def Related (places T U : List Char → List Char → Prop) (p q : Reader α) : Prop :=
  ∀ ⦃s s' : List Char⦄, T s s' → (p s).Agree places U (q s')

theorem related_pure (a : α) (h : ∀ s s', T s s' → U s s') :
    Related places T U (pure a : Reader α) (pure a) := fun s s' hs => ⟨rfl, h s s' hs⟩

theorem Related.bind {p q : Reader α} {f g : α → Reader β} (h : Related places T U p q)
    (hf : ∀ a, Related places U V (f a) (g a)) : Related places T V (p >>= f) (q >>= g) := by
  intro s s' hs
  have hpq := h hs
  rw [bind_apply, bind_apply]
  cases hp : p s <;> cases hq : q s' <;> simp only [hp, hq, Outcome.Agree] at hpq ⊢
  case done.done a r b r' =>
    obtain ⟨rfl, hr⟩ := hpq
    exact hf a hr
  all_goals exact hpq

theorem orElse_apply (p q : Reader α) (s : List Char) :
    (p <|> q) s = match p s with
      | .miss _ => q s
      | o => o := rfl

theorem Related.orElse {p q p' q' : Reader α} (h : Related places T U p q)
    (h' : Related places T U p' q') : Related places T U (p <|> p') (q <|> q') := by
  intro s s' hs
  have hpq := h hs
  rw [orElse_apply, orElse_apply]
  cases hp : p s <;> cases hq : q s' <;> simp only [hp, hq, Outcome.Agree] at hpq ⊢
  case miss.miss => exact h' hs
  all_goals exact hpq

theorem Related.optional {p q : Reader α} (h : Related places T U p q)
    (hTU : ∀ s s', T s s' → U s s') : Related places T U (optional p) (optional q) := by
  intro s s' hs
  have hpq := h hs
  unfold Reader.optional
  cases hp : p s <;> cases hq : q s' <;> simp only [hp, hq, Outcome.Agree] at hpq ⊢
  case done.done a r b r' => exact ⟨congrArg some hpq.1, hpq.2⟩
  case miss.miss => exact ⟨trivial, hTU s s' hs⟩
  all_goals exact hpq

/-- Bounds beyond the length of the text make no difference. -/
theorem manyWithin_eq (p : Reader α) {n m : Nat} {s : List Char} (hn : s.length < n)
    (hm : s.length < m) : manyWithin p n s = manyWithin p m s := by
  induction n generalizing m s with
  | zero => omega
  | succ n ih =>
    obtain ⟨m, rfl⟩ : ∃ k, m = k + 1 := ⟨m - 1, by omega⟩
    simp only [manyWithin]
    cases p s with
    | done a r =>
      by_cases hr : r.length < s.length
      · simp only [hr, if_true, ih (s := r) (m := m) (by omega) (by omega)]
      · simp only [hr, if_false]
    | miss r => rfl
    | halt r => rfl

theorem many_eq (p : Reader α) (s : List Char) :
    many p s = match p s with
      | .miss _ => .done [] s
      | .halt r => .halt r
      | .done a r =>
        if r.length < s.length then
          match many p r with
          | .done as t => .done (a :: as) t
          | o => o
        else .miss s := by
  rw [many, manyWithin]
  dsimp only
  cases p s with
  | done a r =>
    by_cases hr : r.length < s.length
    · have hm : manyWithin p s.length r = many p r := manyWithin_eq p hr (Nat.lt_succ_self _)
      simp only [hr, if_true]
      cases hmany : many p r <;> simp only [hm, hmany]
    · simp only [hr, if_false]
  | miss r => rfl
  | halt r => rfl

theorem Related.many {p q : Reader α} (h : Related places T T p q)
    (hlen : ∀ s s' r r', T s s' → T r r' → (r.length < s.length ↔ r'.length < s'.length))
    (hplace : ∀ s s', T s s' → places s s') : Related places T T (many p) (many q) := by
  intro s
  induction hn : s.length using Nat.strongRecOn generalizing s with
  | _ n ih =>
    intro s' hs
    have hpq := h hs
    rw [many_eq p s, many_eq q s']
    cases hp : p s <;> cases hq : q s' <;> simp only [hp, hq, Outcome.Agree] at hpq ⊢
    case done.done a r b r' =>
      obtain ⟨rfl, hr⟩ := hpq
      have hlt := hlen s s' r r' hs hr
      by_cases hrs : r.length < s.length
      · have hm := ih r.length (by omega) (s := r) rfl hr
        simp only [hrs, hlt.1 hrs, if_true]
        cases hmp : Reader.many p r <;> cases hmq : Reader.many q r' <;>
          simp only [hmp, hmq, Outcome.Agree] at hm ⊢
        case done.done => exact ⟨by rw [hm.1], hm.2⟩
        all_goals exact hm
      · simp only [hrs, mt hlt.2 hrs, if_false]
        exact hplace s s' hs
    case miss.miss => exact ⟨trivial, hs⟩
    all_goals exact hpq

theorem Related.separated {separator separator' : Reader Unit} {p q : Reader α}
    (hsep : Related places T T separator separator') (h : Related places T T p q)
    (hlen : ∀ s s' r r', T s s' → T r r' → (r.length < s.length ↔ r'.length < s'.length))
    (hplace : ∀ s s', T s s' → places s s') :
    Related places T T (separated separator p) (separated separator' q) :=
  h.bind fun _ =>
    (Related.many (hsep.bind fun _ => h) hlen hplace).bind fun _ => related_pure _ fun _ _ => id

end Reader
end SourceMacros

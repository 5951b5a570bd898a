import Mathlib.Data.List.DropRight
import Mathlib.Data.List.TakeWhile
import SourceMacros.Text.Blank
import SourceMacros.Text.Identifier

/-! What trimming leaves: the text between the blanks around it, `exists_trim`. -/

namespace SourceMacros.Text

/-- Nothing but blanks. -/
def Blank (s : List Char) : Prop := ∀ c ∈ s, isBlank c = true

theorem Blank.nil : Blank [] := by simp [Blank]

theorem Blank.append {b b' : List Char} (hb : Blank b) (hb' : Blank b') : Blank (b ++ b') := by
  intro c hc
  rcases List.mem_append.1 hc with hc | hc
  · exact hb c hc
  · exact hb' c hc

theorem blank_space : Blank [' '] := by
  intro c hc
  rw [List.mem_singleton.1 hc]
  decide

theorem isBlank_of_continuesIdentifier {c : Char} (h : continuesIdentifier c = true) :
    isBlank c = false := by
  have hrange : '0'.toNat ≤ c.toNat ∧ c.toNat ≤ 'z'.toNat := by
    rcases Bool.or_eq_true_iff.1 h with hword | hunderscore
    · rcases Bool.or_eq_true_iff.1 hword with hletter | hdigit
      · rcases Bool.or_eq_true_iff.1 hletter with hupper | hlower
        · have hfirst : 'A'.toNat ≤ c.toNat := (of_decide_eq_true hupper).1
          have hlast : c.toNat ≤ 'Z'.toNat := (of_decide_eq_true hupper).2
          exact ⟨le_trans (by decide) hfirst, le_trans hlast (by decide)⟩
        · obtain ⟨hfirst, hlast⟩ := Bool.and_eq_true_iff.1 hlower
          have hfirst' : 'a'.toNat ≤ c.toNat := of_decide_eq_true hfirst
          exact ⟨le_trans (by decide) hfirst', of_decide_eq_true hlast⟩
      · obtain ⟨hfirst, hlast⟩ := Char.isDigit_iff_toNat.1 hdigit
        exact ⟨hfirst, le_trans hlast (by decide)⟩
    · rw [eq_of_beq hunderscore]
      decide
  have hfirst : 0x30 ≤ c.toNat := hrange.1
  have hlast : c.toNat ≤ 0x7a := hrange.2
  by_contra hb
  simp only [isBlank, Bool.not_eq_false, Bool.or_eq_true, Bool.and_eq_true, decide_eq_true_eq,
    beq_iff_eq] at hb
  omega

theorem isGap_of_not_isBlank {c : Char} (h : isBlank c = false) : isGap c = false := by
  by_contra hgap
  rw [isBlank_of_isGap (by simpa using hgap)] at h
  cases h

/-- No blank stands at the end of the text. -/
def Ended (s : List Char) : Prop := ∀ t c, s = t ++ [c] → isBlank c = false

/-- No blank stands at either end of the text. -/
structure Trimmed (s : List Char) : Prop where
  head : ∀ c ∈ s.head?, isBlank c = false
  ended : Ended s

theorem Trimmed.dropWhile_isGap {s : List Char} (h : Trimmed s) : s.dropWhile isGap = s := by
  cases s with
  | nil => rfl
  | cons c s => rw [List.dropWhile_cons_of_neg (by simp [isGap_of_not_isBlank (h.head c rfl)])]

theorem Ended.of_append {s t : List Char} (h : Ended (s ++ t)) : Ended t :=
  fun u c ht => h (s ++ u) c (by rw [ht, List.append_assoc])

theorem Ended.append {t : List Char} (ht : Ended t) (hne : t ≠ []) (s : List Char) : Ended (s ++ t) := by
  intro u c h
  obtain ⟨v, d, rfl⟩ := List.eq_nil_or_concat t |>.resolve_left hne
  rw [List.concat_eq_append, ← List.append_assoc] at h
  obtain rfl : d = c := by simpa using (List.append_inj' h rfl).2
  exact ht v d List.concat_eq_append

theorem Ended.eq_nil_of_blank {s b : List Char} (h : Ended (s ++ b)) (hb : Blank b) : b = [] := by
  rcases List.eq_nil_or_concat b with hnil | ⟨t, c, rfl⟩
  · exact hnil
  · rw [List.concat_eq_append, ← List.append_assoc] at h
    have hc : isBlank c = true := hb c (by simp)
    rw [h _ c rfl] at hc
    cases hc

theorem ended_append_singleton (s : List Char) {c : Char} (hc : isBlank c = false) :
    Ended (s ++ [c]) := by
  intro t d h
  obtain rfl : c = d := by simpa using (List.append_inj' h rfl).2
  exact hc

theorem trimmed_of_forall {s : List Char} (h : ∀ c ∈ s, isBlank c = false) : Trimmed s :=
  ⟨fun c hc => h c (List.mem_of_mem_head? hc), fun t c ht => h c (by simp [ht])⟩

theorem trimmed_identifier {name : String} (h : isIdentifier name = true) : Trimmed name.toList :=
  trimmed_of_forall fun _ hc => isBlank_of_continuesIdentifier (continuesIdentifier_of_mem h hc)

theorem exists_trimEnd (s : List Char) :
    ∃ b, Blank b ∧ s = trimEnd s ++ b ∧ Ended (trimEnd s) := by
  refine ⟨(s.reverse.takeWhile isBlank).reverse, ?_, ?_, ?_⟩
  · intro c hc
    exact List.mem_takeWhile_imp (List.mem_reverse.1 hc)
  · rw [trimEnd, ← List.reverse_append, List.takeWhile_append_dropWhile, List.reverse_reverse]
  · intro t c ht
    have hrev : s.reverse.dropWhile isBlank = c :: t.reverse := by
      rw [← List.reverse_inj, ← trimEnd, ht]
      simp
    have hhead := List.head?_dropWhile_not isBlank s.reverse
    simpa [hrev] using hhead

theorem blank_takeWhile (s : List Char) : Blank (s.takeWhile isBlank) := fun _ hc => List.mem_takeWhile_imp hc

/-- A text is the blanks in front of it, what trimming leaves, and the blanks behind it. -/
theorem exists_trim_lead (s : List Char) :
    ∃ b, Blank b ∧ s = s.takeWhile isBlank ++ (trim s ++ b) := by
  obtain ⟨b, hb, hs, -⟩ := exists_trimEnd (trimStart s)
  exact ⟨b, hb, by rw [trim, ← hs, trimStart, List.takeWhile_append_dropWhile]⟩

theorem trimmed_trim (s : List Char) : Trimmed (trim s) := by
  obtain ⟨b', -, hs, hended⟩ := exists_trimEnd (trimStart s)
  refine ⟨fun c hc => ?_, hended⟩
  have hhead := List.head?_dropWhile_not isBlank s
  rw [← trimStart, hs] at hhead
  cases ht : trimEnd (trimStart s) with
  | nil =>
    rw [trim, ht] at hc
    cases hc
  | cons d t =>
    rw [trim, ht] at hc
    obtain rfl := Option.some.inj hc
    simpa [ht] using hhead

/-- A text is what trimming leaves with blanks around it. -/
theorem exists_trim (s : List Char) :
    ∃ b b', Blank b ∧ Blank b' ∧ s = b ++ (trim s ++ b') ∧ Trimmed (trim s) := by
  obtain ⟨b', hb', hs⟩ := exists_trim_lead s
  exact ⟨_, b', blank_takeWhile s, hb', hs, trimmed_trim s⟩

theorem trim_ne_nil {s : List Char} (h : ¬ Blank s) : trim s ≠ [] := by
  obtain ⟨b, b', hb, hb', hs, -⟩ := exists_trim s
  intro hnil
  rw [hnil, List.nil_append] at hs
  exact h (hs ▸ hb.append hb')

theorem trimStart_append {b s : List Char} (hb : Blank b) (hs : ∀ c ∈ s.head?, isBlank c = false) :
    trimStart (b ++ s) = s := by
  rw [trimStart, List.dropWhile_append_of_pos hb]
  cases s with
  | nil => rfl
  | cons c s => rw [List.dropWhile_cons_of_neg (by simp [hs c rfl])]

theorem trimEnd_append {b s : List Char} (hb : Blank b) (hs : Ended s) : trimEnd (s ++ b) = s := by
  have hb' : ∀ c ∈ b.reverse, isBlank c = true := fun c hc => hb c (List.mem_reverse.1 hc)
  rw [trimEnd, List.reverse_append, List.dropWhile_append_of_pos hb']
  cases hr : s.reverse with
  | nil => simpa using hr
  | cons c t =>
    have hc : isBlank c = false := hs t.reverse c (by rw [← List.reverse_inj, hr]; simp)
    rw [List.dropWhile_cons_of_neg (by simp [hc]), ← hr, List.reverse_reverse]

theorem Trimmed.trim_eq {b s b' : List Char} (h : Trimmed s) (hb : Blank b) (hb' : Blank b')
    (hne : s ≠ []) : trim (b ++ (s ++ b')) = s := by
  have hhead : ∀ c ∈ (s ++ b').head?, isBlank c = false := by
    cases s with
    | nil => exact absurd rfl hne
    | cons d s => exact h.head
  rw [trim, trimStart_append hb hhead, trimEnd_append hb' h.ended]

theorem Trimmed.trim_self {s : List Char} (h : Trimmed s) : trim s = s := by
  cases s with
  | nil => rfl
  | cons c s => simpa using h.trim_eq Blank.nil Blank.nil (List.cons_ne_nil c s)

theorem trimmed_of_trim_eq {s : List Char} (h : trim s = s) : Trimmed s := h ▸ trimmed_trim s

theorem trim_trim (s : List Char) : trim (trim s) = trim s := (trimmed_trim s).trim_self

theorem trim_trimStart (s : List Char) : trim (trimStart s) = trim s := by
  rw [trim, trimStart, trimStart, List.dropWhile_idempotent]
  rfl

theorem isInfix_trim (s : List Char) : trim s <:+: s := by
  obtain ⟨b, b', -, -, hs, -⟩ := exists_trim s
  exact ⟨b, b', by rw [List.append_assoc, ← hs]⟩

theorem trim_eq_nil_iff {s : List Char} : trim s = [] ↔ Blank s := by
  constructor
  · intro hnil
    by_contra hs
    exact trim_ne_nil hs hnil
  · intro hs
    by_contra hne
    obtain ⟨c, t, hc⟩ := List.exists_cons_of_ne_nil hne
    have hblank := hs c ((isInfix_trim s).subset (by simp [hc]))
    rw [(trimmed_trim s).head c (by simp [hc])] at hblank
    cases hblank

end SourceMacros.Text

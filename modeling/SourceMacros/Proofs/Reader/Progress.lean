import SourceMacros.Proofs.Declaration.Reading
import SourceMacros.Proofs.Reader.Places

/-! The readers of things that cannot be empty take a character at least whenever they find something, and what
they leave is an end of the text: `Advances`. -/

namespace SourceMacros.Reader

open Text Nesting

variable {α : Type}

/-- What the reader leaves of a text is an end of it, and a shorter one. -/
def Advances (p : Reader α) : Prop := ∀ s a r, p s = .done a r → r <:+ s ∧ r.length < s.length

section Consuming

variable {p : Reader Expression}

theorem consumes_symbol (c : Char) : Consumes (symbol c) :=
  (shrinks_skip _).bind_consumes fun _ => consumes_char c

theorem consumes_name : Consumes name := (shrinks_skip _).bind_consumes fun _ => consumes_identifier

theorem shrinks_pure (a : α) : Shrinks (pure a : Reader α) := Steady.shrinks fun _ => steady_pure a

theorem consumes_stringLiteral (hp : Shrinks p) : Consumes (stringLiteral p) :=
  (consumes_char '"').bind fun _ => Steady.shrinks fun _ => hp.steady.segments.bind fun _ => steady_pure _

theorem consumes_entry (hp : Consumes p) : Consumes (entry p) :=
  hp.bind fun _ => Steady.shrinks fun _ => (steady_symbol ':').bind fun _ =>
    hp.shrinks.steady.bind fun _ => steady_pure _

theorem consumes_argument (hp : Consumes p) : Consumes (argument p) :=
  (Steady.shrinks fun _ => steady_label.optional).bind_consumes fun _ => hp.bind fun _ => shrinks_pure _

theorem consumes_dictionary (hp : Shrinks p) : Consumes (dictionary p) := by
  refine Consumes.orElse ((consumes_char '[').bind fun _ => Steady.shrinks fun _ => ?_)
    ((consumes_char '[').bind fun _ => Steady.shrinks fun _ => ?_)
  · exact (steady_symbol ':').bind fun _ => (steady_symbol ']').bind fun _ => steady_pure _
  · exact (Steady.separated (shrinks_symbol ',') hp.steady.entry).bind fun _ =>
      (steady_symbol ',').optional.bind fun _ => (steady_symbol ']').bind fun _ => steady_pure _

theorem consumes_callOrIdentifier (hp : Shrinks p) : Consumes (callOrIdentifier p) := by
  refine consumes_identifier.bind fun _ => Steady.shrinks fun m =>
    (hp.steady.argumentList.mono m.le_succ).optional.bind fun arguments => ?_
  cases arguments <;> exact steady_pure _

theorem consumes_verbatim : Consumes verbatim := by
  intro s e r h
  simp only [verbatim] at h
  split at h
  case isTrue => cases h
  case isFalse hblank =>
    injection h with _ hr
    have hne : (splitVerbatim 0 .outside s).1 ≠ [] := by
      intro hnil
      rw [hnil] at hblank
      exact hblank rfl
    have hlength := congrArg List.length (splitVerbatim_append 0 .outside s)
    have hpos := List.length_pos_iff.2 hne
    rw [List.length_append] at hlength
    rw [← hr]
    omega

theorem consumes_closed (hp : Consumes p) : Consumes (closed p) :=
  hp.bind fun _ => Steady.shrinks fun _ => shrinks_expressionEnd.steady.bind fun _ => steady_pure _

theorem consumes_expressionShape (hp : Shrinks p) : Consumes (expressionShape p) :=
  (consumes_closed consumes_integer).orElse <| (consumes_closed (consumes_stringLiteral hp)).orElse <|
    (consumes_closed (consumes_dictionary hp)).orElse <|
      (consumes_closed (consumes_callOrIdentifier hp)).orElse consumes_verbatim

theorem consumes_expression : Consumes expression := by
  intro s e r h
  rw [expression_eq] at h
  exact (shrinks_skip _).bind_consumes (fun _ => consumes_expressionShape shrinks_expression) s e r h

theorem consumes_mark : Consumes mark :=
  (consumes_symbol '@').bind fun _ => Steady.shrinks fun _ => shrinks_identifier.steady.bind fun _ => steady_pure _

theorem consumes_modifier : Consumes modifier := by
  refine consumes_name.bind fun word => ?_
  cases Modifier.ofKeyword? word with
  | some m => exact shrinks_pure m
  | none => exact shrinks_miss

theorem consumes_memberBlock : Consumes (memberBlock declaration) :=
  (consumes_symbol '{').bind fun _ => Steady.shrinks fun _ =>
    consumes_declaration.shrinks.steady.members consumes_declaration

end Consuming

section Advancing

variable {p : Reader α}

theorem Consumes.advances (h : Consumes p) (hstays : ∀ source, Stays source p) : Advances p := by
  intro s a r hp
  have hend := hstays s (List.suffix_refl s)
  rw [hp] at hend
  exact ⟨hend, h s a r hp⟩

theorem Advances.consumes (h : Advances p) : Consumes p := fun s a r hp => (h s a r hp).2

theorem Advances.bind {β : Type} {f : α → Reader β} (hp : Advances p) (hf : ∀ a, Advances (f a)) :
    Advances (p >>= f) := by
  intro s b r h
  obtain ⟨a, t, hread, hrest⟩ := bind_eq_done.1 h
  obtain ⟨hend, hlt⟩ := hp s a t hread
  obtain ⟨hend', hlt'⟩ := hf a t b r hrest
  exact ⟨hend'.trans hend, hlt'.trans hlt⟩

theorem advances_symbol (c : Char) : Advances (symbol c) := (consumes_symbol c).advances fun _ => stays_symbol c

theorem stays_entry (source : List Char) : Stays source (entry expression) :=
  stays_expression.bind fun _ => (stays_symbol ':').bind fun _ => stays_expression.bind fun _ =>
    keeps_pure _ fun _ => id

theorem stays_argument (source : List Char) : Stays source (argument expression) :=
  ((stepwise_suffix source).keeps_label (n := 0)).optional.bind fun _ => stays_expression.bind fun _ =>
    keeps_pure _ fun _ => id

theorem stays_memberBlock (source : List Char) : Stays source (memberBlock declaration) :=
  (stays_symbol '{').bind fun _ s hs => stays_membersWithin stays_declaration (s.length + 1) hs

theorem advances_expression : Advances expression := consumes_expression.advances fun _ => stays_expression

theorem advances_declaration : Advances declaration := consumes_declaration.advances fun _ => stays_declaration

theorem advances_argument : Advances (argument expression) :=
  (consumes_argument consumes_expression).advances stays_argument

theorem advances_entry : Advances (entry expression) :=
  (consumes_entry consumes_expression).advances stays_entry

/-- A list of things that are read ends where the first is missed, never since one of them takes nothing. -/
theorem many_ne_miss (hp : Consumes p) (s place : List Char) : many p s ≠ .miss place := by
  induction hn : s.length using Nat.strongRecOn generalizing s with
  | _ n ih =>
    rw [many_eq]
    cases hps : p s with
    | done a r =>
      have hlt := hp s a r hps
      have hmore := ih r.length (by omega) r rfl
      simp only [hlt, if_true]
      cases hmany : many p r with
      | done as t => simp
      | miss t => exact fun h => hmore (hmany.trans h)
      | halt t => simp
    | miss t => simp
    | halt t => simp

end Advancing

end SourceMacros.Reader

import SourceMacros.Proofs.Expression.RoundTrip

/-! A well-formed expression or macro call that does not nest too deeply is read off every layout of it, with
any gaps between its parts: `Expression.WellFormed.parse_layout`, `Invocation.WellFormed.parse_layout`. -/

namespace SourceMacros

open Text Reader Nesting

namespace Expression.WellFormed

variable {e : Expression} {u c : List Char}

theorem taken_layout (h : e.WellFormed) (hc : endsExpression c = true)
    (hu : e.Spelled (fun text v _ => v = text.toList) u c) : e.Spelled Taken u c := by
  refine Expression.Spelled.mono e (fun text ht v r hr hv => ?_) hu fun _ _ => hc
  subst hv
  exact (Expression.Shaped.others e h text ht).taken hr

theorem bracketed_layout (h : e.WellFormed) (hc : endsExpression c = true)
    (hu : e.Spelled (fun text v _ => v = text.toList) u c) :
    e.Spelled (fun text v _ => Spans false v (bracketDepth 0 text.toList)) u c := by
  refine Expression.Spelled.mono e (fun text ht v r hr hv => ?_) hu fun _ _ => hc
  subst hv
  exact spans_of_isBracketed (Expression.Shaped.others e h text ht).bracketed

theorem spans_layout (h : e.WellFormed) (hc : endsExpression c = true)
    (hu : e.Spelled (fun text v _ => v = text.toList) u c) : Spans false u e.levels :=
  Expression.Spelled.spans (fun _ _ _ hv => hv) e (h.bracketed_layout hc hu)

/-- A well-formed expression that does not nest too deeply is read off every layout of it. -/
theorem parse_layout (h : e.WellFormed) {source : String}
    (hs : e.Spelled (fun text v _ => v = text.toList) source.toList []) :
    (Expression.parse source = .ok e ↔ e.levels ≤ limit) ∧
      (limit < e.levels → ∃ place, Expression.parse source = .error (.unreadable (.tooDeep place))) := by
  obtain ⟨r, hread, hr⟩ := reads_of_spelled e (h.taken_layout rfl hs) rfl
  rw [List.append_nil] at hread
  exact read_iff_levels (h.spans_layout rfl hs) ⟨r, hread, hr⟩

end Expression.WellFormed

namespace Invocation

/-- A text that spells the call with any gaps between the parts of its arguments. -/
def Layout (v : Invocation) (s : List Char) : Prop :=
  ∃ u, s = '#' :: u ∧ (Expression.callOf v.name v.arguments).Spelled (fun text w _ => w = text.toList) u []

variable {v : Invocation}

theorem WellFormed.callOf (h : v.WellFormed) : (Expression.callOf v.name v.arguments).WellFormed :=
  ⟨⟨v.name, rfl, h.1⟩, h.2⟩

theorem WellFormed.layout_written (h : v.WellFormed) : v.Layout v.written := by
  refine ⟨(Expression.callOf v.name v.arguments).written, rfl, ?_⟩
  exact Expression.spelled_written _ [] h.callOf fun _ _ => rfl

theorem WellFormed.parse_layout (h : v.WellFormed) {source : String} (hs : v.Layout source.toList) :
    (Invocation.parse source = .ok v ↔ v.levels ≤ limit) ∧
      (limit < v.levels → ∃ place, Invocation.parse source = .error (.unreadable (.tooDeep place))) := by
  obtain ⟨u, hu, hspelled⟩ := hs
  have hread := invocation_of_spelled (h.callOf.taken_layout rfl hspelled)
  rw [List.append_nil, ← hu] at hread
  have hsign : Spans false ['#'] 0 := Spans.quiet_single (by decide)
  have hspans := hsign.append (h.callOf.spans_layout rfl hspelled)
  rw [Nat.zero_max, List.singleton_append, ← hu] at hspans
  exact read_iff_levels hspans ⟨[], hread, rfl⟩

theorem WellFormed.trimmed_layout (h : v.WellFormed) {s : List Char} (hs : v.Layout s) :
    s.head? = some '#' ∧ Trimmed s := by
  obtain ⟨u, rfl, hspelled⟩ := hs
  obtain ⟨name, t, -, -, rfl, hlist⟩ := h.callOf.bracketed_layout rfl hspelled
  obtain ⟨w, rfl⟩ : ∃ w, t = w ++ [')'] := by
    rcases hlist with ⟨-, hclosing⟩ | hlist
    · obtain ⟨w, hw, -⟩ := spans_closing hclosing
      exact ⟨w, hw⟩
    · obtain ⟨w, hw, -⟩ := ArgumentsSpelled.spans (fun _ _ _ hv => hv) _ hlist
      exact ⟨w, hw⟩
  refine ⟨rfl, ⟨fun c hc => ?_, ?_⟩⟩
  · obtain rfl : '#' = c := Option.some.inj hc
    decide
  · have hparen := ended_append_singleton ('#' :: (name.toList ++ '(' :: w)) (c := ')') (by decide)
    simpa using hparen

end Invocation

end SourceMacros

import SourceMacros.Proofs.Expression.Depth
import SourceMacros.Proofs.Expression.Verbatim
import SourceMacros.Proofs.Reader.Whole

/-! Reading undoes rendering for well-formed expressions and macro calls, exactly up to the nesting limit,
`parse_render_iff`. -/

namespace SourceMacros

open Text Reader

/-- A verbatim text that closes its brackets, holds no literal and no delimiter outside of brackets, and
is read as itself. -/
structure StandsAlone (text : String) : Prop where
  bracketed : isBracketed isDelimiter 0 text.toList = true
  nonempty : text.toList ≠ []
  trimmed : trim text.toList = text.toList
  parsed : Expression.parse text = .ok (.other text)

namespace Expression

def WellFormed (e : Expression) : Prop := e.Shaped StandsAlone

/-- The levels of the text that is written, the brackets of verbatim texts among them. -/
def levels (e : Expression) : Nat := e.depth fun text => bracketDepth 0 text.toList

end Expression

namespace Invocation

def WellFormed (v : Invocation) : Prop :=
  isIdentifier v.name = true ∧ ArgumentsShaped StandsAlone v.arguments

def levels (v : Invocation) : Nat :=
  argumentsDepth (fun text => bracketDepth 0 text.toList) v.arguments + 1

end Invocation

theorem StandsAlone.taken {text : String} (h : StandsAlone text) {c : List Char}
    (hc : endsExpression c = true) : Taken text text.toList c := by
  obtain ⟨-, r, hread, -⟩ := read_eq_ok.1 h.parsed
  exact taken_of_isBracketed h.bracketed h.nonempty h.trimmed hread hc

namespace Expression.WellFormed

variable {e : Expression}

theorem taken (h : e.WellFormed) {c : List Char} (hc : Stops c) : e.Spelled Taken e.written c := by
  refine Expression.spelled_written e c h fun p hp => ?_
  obtain ⟨halone, hstops⟩ := Expression.Shaped.verbatims e h hc p hp
  exact halone.taken hstops.endsExpression

theorem spans (h : e.WellFormed) : Nesting.Spans false e.written e.levels := by
  have hspelled : e.Spelled (fun text u _ => u = text.toList ∧ isBracketed isDelimiter 0 u = true) e.written [] := by
    refine Expression.spelled_written e [] h fun p hp => ⟨rfl, ?_⟩
    exact (Expression.Shaped.verbatims e h stops_nil p hp).1.bracketed
  refine Expression.Spelled.spans ?_ e hspelled
  rintro text _ _ ⟨rfl, hb⟩
  exact spans_of_isBracketed hb

end Expression.WellFormed

/-- A text that spans the right number of levels is read, or refused for its nesting. -/
theorem read_iff_levels {α : Type} {p : Reader α} {source : String} {a : α} {levels : Nat}
    (hspans : Nesting.Spans false source.toList levels)
    (hread : ∃ r, p source.toList = .done a r ∧ r.dropWhile isGap = []) :
    (read p source = .ok a ↔ levels ≤ Nesting.limit) ∧
      (Nesting.limit < levels →
        ∃ place, read p source = .error (.unreadable (.tooDeep place))) := by
  have hiff := hspans.tooDeepAt_eq_none_iff Nesting.limit
  refine ⟨?_, fun hlt => ?_⟩
  · rw [read_eq_ok, hiff]
    exact and_iff_left hread
  · cases hdeep : Nesting.tooDeepAt Nesting.limit [] source.toList with
    | none => exact absurd (hiff.1 hdeep) (Nat.not_le.2 hlt)
    | some place => exact ⟨_, read_of_tooDeep hdeep⟩

theorem invocation_of_spelled {name : String} {arguments : List Argument} {u c : List Char}
    (h : (Expression.callOf name arguments).Spelled Taken u c) :
    invocation ('#' :: (u ++ c)) = .done ⟨name, arguments⟩ c := by
  obtain ⟨_, t, hcallee, hname, rfl, hlist⟩ := h
  obtain rfl := Expression.identifier.inj hcallee
  obtain ⟨hword, hread⟩ := call_of_list hname (hlist.imp_right (arguments_of_spelled arguments))
  have hsign : ∀ s, symbol '#' ('#' :: s) = .done () s := fun s => symbol_gap Gap.nil (by decide) s
  rw [List.append_assoc, List.cons_append, invocation, bind_done (hsign _), bind_done hword,
    bind_done (optional_done hread)]
  rfl

/-- Well-formed expressions and macro calls are read off the text that is written for them, if it does
not nest too deeply; otherwise the nesting is refused. -/
theorem parse_render_iff :
    (∀ e : Expression, e.WellFormed →
      (Expression.parse e.render = .ok e ↔ e.levels ≤ Nesting.limit) ∧
      (Nesting.limit < e.levels →
        ∃ place, Expression.parse e.render = .error (.unreadable (.tooDeep place)))) ∧
    ∀ v : Invocation, v.WellFormed →
      (Invocation.parse v.render = .ok v ↔ v.levels ≤ Nesting.limit) ∧
      (Nesting.limit < v.levels →
        ∃ place, Invocation.parse v.render = .error (.unreadable (.tooDeep place))) := by
  constructor
  · intro e he
    obtain ⟨r, hread, hr⟩ := reads_of_spelled e (he.taken stops_nil) rfl
    rw [List.append_nil, ← Expression.toList_render] at hread
    refine read_iff_levels ?_ ⟨r, hread, hr⟩
    rw [Expression.toList_render]
    exact he.spans
  · intro v hv
    have hcall : (Expression.callOf v.name v.arguments).WellFormed := ⟨⟨v.name, rfl, hv.1⟩, hv.2⟩
    have hwritten : v.render.toList = '#' :: (Expression.callOf v.name v.arguments).written := by
      rw [Invocation.toList_render]
      rfl
    have hread := invocation_of_spelled (hcall.taken stops_nil)
    rw [List.append_nil, ← hwritten] at hread
    refine read_iff_levels ?_ ⟨[], hread, rfl⟩
    have hsign : Nesting.Spans false ['#'] 0 := Nesting.Spans.quiet_single (by decide)
    have hall := hsign.append hcall.spans
    rw [Nat.zero_max, List.singleton_append, ← hwritten] at hall
    exact hall

/-- A call with a label, a verbatim sum and a literal around an interpolated dictionary. -/
theorem parse_render_iff_call :
    Expression.parse "f(a + (b), to: \"x\\([:])\")" =
      .ok (.callOf "f" [.plain (.other "a + (b)"),
        ⟨some "to", .string [.text "x", .interpolation (.dictionary [])]⟩]) := by
  have halone : StandsAlone "a + (b)" := ⟨by decide, by decide, by decide, rfl⟩
  have he : (Expression.callOf "f" [.plain (.other "a + (b)"),
      ⟨some "to", .string [.text "x", .interpolation (.dictionary [])]⟩]).WellFormed := by
    have htext : SegmentsShaped StandsAlone [.text "x", .interpolation (.dictionary [])] :=
      ⟨⟨by decide, by decide, by simp [Segment.isText]⟩, trivial, trivial⟩
    exact ⟨⟨"f", rfl, by decide⟩, by simp, halone, by simp; decide, htext, trivial⟩
  exact ((parse_render_iff.1 _ he).1).2 (by decide)

end SourceMacros

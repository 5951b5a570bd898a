import SourceMacros.Proofs.Declaration.Depth
import SourceMacros.Proofs.Declaration.Taking
import SourceMacros.Proofs.Expression.RoundTrip

/-! A well-formed declaration that does not nest too deeply is read off every layout of it, the text that
is written for it among them, `parse_layout_iff`. -/

namespace SourceMacros

open Text Reader Nesting

/-- A text of a type that closes its brackets and holds no quote. -/
structure IsClosedType (text : String) : Prop extends IsTypeText text where
  closed : isBracketed (fun _ => false) 0 text.toList = true

namespace Declaration

def WellFormed (d : Declaration) : Prop := d.Shaped StandsAlone IsClosedType

/-- The levels of the text that is written, the brackets of types and verbatim texts among them. -/
def levels (d : Declaration) : Nat :=
  d.depth (fun text => bracketDepth 0 text.toList) fun text => bracketDepth 0 text.toList

/-- A text that spells the declaration, with any gaps between its parts, any gaps and semicolons between
its members, and a gap at the end. -/
def Layout (d : Declaration) (s : List Char) : Prop :=
  ∃ u c, s = u ++ c ∧ Gap c ∧ d.Spelled (fun text v _ => v = text.toList) u c

namespace WellFormed

variable {d : Declaration}

theorem layout_written (h : d.WellFormed) : d.Layout d.written := by
  refine ⟨d.written, [], by simp, Gap.nil, ?_⟩
  exact Declaration.spelled_written d 0 (by simp [EndsLine])
    (Declaration.Shaped.mono d (fun _ _ ht => ht.toIsTypeText) h) fun _ _ => rfl

theorem taken (h : d.WellFormed) {u c : List Char}
    (hu : d.Spelled (fun text v _ => v = text.toList) u c) : d.Spelled Taken u c := by
  refine Declaration.Spelled.mono d (fun text ht v r hr hv => ?_) hu
  subst hv
  exact (Declaration.Shaped.others d h text ht).taken hr

theorem spans (h : d.WellFormed) {u c : List Char}
    (hu : d.Spelled (fun text v _ => v = text.toList) u c) : Spans false u d.levels := by
  have hspelled : d.Spelled (fun text v _ => Spans false v (bracketDepth 0 text.toList)) u c := by
    refine Declaration.Spelled.mono d (fun text ht v r hr hv => ?_) hu
    subst hv
    exact spans_of_isBracketed (Declaration.Shaped.others d h text ht).bracketed
  exact Declaration.Spelled.spans (fun _ _ _ hv => hv) d
    (fun text ht => spans_of_isBracketed (Declaration.Shaped.types d h text ht).closed) hspelled

end WellFormed

end Declaration

theorem quits_of_gap {c : List Char} (hc : Gap c) : Quits c := by
  have hdrop := hc.dropWhile_append []
  rw [List.append_nil, List.dropWhile_nil] at hdrop
  simp [Quits, hdrop]

/-- A layout of a well-formed declaration is read, or refused for its nesting. -/
theorem Declaration.WellFormed.parse_layout {d : Declaration} (hd : d.WellFormed) {source : String}
    (hs : d.Layout source.toList) :
    (Declaration.parse source = .ok d ↔ d.levels ≤ limit) ∧
      (limit < d.levels →
        ∃ place, Declaration.parse source = .error (.unreadable (.tooDeep place))) := by
  obtain ⟨u, c, hs, hc, hu⟩ := hs
  obtain ⟨r, hread, hr⟩ := declaration_of_spelled d (hd.taken hu) (quits_of_gap hc)
  have hdrop := hc.dropWhile_append []
  rw [List.append_nil, List.dropWhile_nil] at hdrop
  have hspans := (hd.spans hu).append (spans_gap hc)
  rw [Nat.max_zero, ← hs] at hspans
  rw [← hs] at hread
  exact read_iff_levels hspans ⟨r, hread, hr.trans hdrop⟩

theorem Declaration.WellFormed.parse_written {d : Declaration} (hd : d.WellFormed) :
    (Declaration.parse d.render = .ok d ↔ d.levels ≤ limit) ∧
      (limit < d.levels →
        ∃ place, Declaration.parse d.render = .error (.unreadable (.tooDeep place))) := by
  refine hd.parse_layout ?_
  rw [Declaration.toList_render]
  exact hd.layout_written

/-- A well-formed declaration is read off every layout, if it does not nest too deeply. -/
theorem parse_layout_iff (d : Declaration) (hd : d.WellFormed) :
    (Declaration.parse d.render = .ok d ↔ d.levels ≤ limit) ∧
      ∀ source : String, d.Layout source.toList →
        (Declaration.parse source = .ok d ↔ d.levels ≤ limit) :=
  ⟨hd.parse_written.1, fun _ hs => (hd.parse_layout hs).1⟩

/-- A class with a constant and a struct as it is written, and the struct in one line with a semicolon. -/
theorem parse_layout_iff_class :
    Declaration.parse "class A \x7b\n    @m public let b: [Int] = 1\n    struct C \x7b\n    \x7d\n\x7d" =
      .ok (.body .reference "A" [] [] [
        .binding ⟨"b", some "[Int]", some (.integer "1"), true, [.public], [⟨"m"⟩]⟩,
        .body .struct "C" [] [] []]) ∧
    Declaration.parse "struct C\x7b ;\x7d\r\n" = .ok (.body .struct "C" [] [] []) := by
  have htrim : Trimmed "[Int]".toList := trimmed_of_trim_eq (by decide)
  have hin : "[Int]".toList.all inType = true := by decide
  have hhead : ∀ k ∈ "[Int]".toList.head?, isSpace k = false := by
    intro k hk
    obtain rfl : '[' = k := Option.some.inj hk
    decide
  have htype : IsClosedType "[Int]" :=
    ⟨⟨by decide, List.all_eq_true.1 hin, hhead, htrim.ended⟩, by decide⟩
  have hclass : (Declaration.body .reference "A" [] [] [
      .binding ⟨"b", some "[Int]", some (.integer "1"), true, [.public], [⟨"m"⟩]⟩,
      .body .struct "C" [] [] []]).WellFormed := by
    have hinteger : (Expression.integer "1").Shaped StandsAlone := by
      rw [Expression.Shaped]
      decide
    exact ⟨by simp, by decide, ⟨by decide, by decide, by simpa using htype, by simpa using hinteger⟩,
      ⟨by simp, by decide, trivial⟩, trivial⟩
  have hstruct : (Declaration.body .struct "C" [] [] []).WellFormed := ⟨by simp, by decide, trivial⟩
  have hlayout : (Declaration.body .struct "C" [] [] []).Layout "struct C\x7b ;\x7d\r\n".toList := by
    have hline : ['\r', '\n'].all isGap = true := by decide
    have hsemicolon : [' ', ';'].all isMemberGap = true := by decide
    have hwords : WordsSpelled ["struct".toList, "C".toList] "struct C".toList
        ('{' :: (" ;\x7d".toList ++ ['\r', '\n'])) :=
      ⟨[], " C".toList, Gap.nil, rfl, endsWord_cons (by decide),
        [' '], [], gap_space, rfl, endsWord_cons (by decide), rfl⟩
    exact ⟨"struct C\x7b ;\x7d".toList, ['\r', '\n'], rfl, List.all_eq_true.1 hline, "struct C".toList, [], " ;\x7d".toList,
      Gap.nil, rfl, hwords, ⟨[' ', ';'], List.all_eq_true.1 hsemicolon, rfl⟩, by simp, by decide⟩
  exact ⟨(parse_layout_iff _ hclass).1.2 (by decide),
    ((parse_layout_iff _ hstruct).2 _ hlayout).2 (by decide)⟩

end SourceMacros

import SourceMacros.Proofs.Declaration.Content
import SourceMacros.Proofs.Declaration.Reading
import SourceMacros.Proofs.Reader.Whole

/-! Reading loses and invents nothing: what is written for a tree has the content of the source it was read
off, but for the empty list of arguments that is written behind the bare name of a macro,
`content_render`. -/

namespace SourceMacros

open Text Reader

/-- A sign and a name, with no list of arguments. -/
def Invocation.Bare (s : List Char) : Prop :=
  ∃ g name h, Gap g ∧ isIdentifier name = true ∧ Gap h ∧ s = g ++ '#' :: (name.toList ++ h)

theorem gap_of_dropWhile_eq_nil {r : List Char} (h : r.dropWhile isGap = []) : Gap r :=
  List.dropWhile_eq_nil_iff.1 h

theorem Invocation.Bare.not_mem {s : List Char} (h : Invocation.Bare s) : '(' ∉ s := by
  obtain ⟨g, name, k, hg, hname, hk, rfl⟩ := h
  intro hmem
  rcases List.mem_append.1 hmem with hmem | hmem
  · exact absurd (hg _ hmem) (by decide)
  · rcases List.mem_cons.1 hmem with hmem | hmem
    · exact absurd hmem (by decide)
    · rcases List.mem_append.1 hmem with hmem | hmem
      · exact absurd (continuesIdentifier_of_mem hname hmem) (by decide)
      · exact absurd (hk _ hmem) (by decide)

theorem Expression.content_written {source : String} {e : Expression}
    (h : Expression.parse source = .ok e) : content e.written = content source.toList := by
  obtain ⟨-, r, hread, hr⟩ := read_eq_ok.1 h
  obtain ⟨g, u, hg, hs, -, hu⟩ := expression_eq_done hread
  have hspelled := Expression.Spelled.content_eq (fun _ _ _ => content_verbatim) e hu
  rw [hs, content_append, content_append, content_gap hg, content_gap (gap_of_dropWhile_eq_nil hr),
    hspelled, List.nil_append, List.append_nil]

theorem Declaration.content_written {source : String} {d : Declaration}
    (h : Declaration.parse source = .ok d) : content d.written = content source.toList := by
  obtain ⟨-, r, hread, hr⟩ := read_eq_ok.1 h
  obtain ⟨u, hs, hu⟩ := declaration_eq_done hread
  have hspelled := Declaration.Spelled.content_eq (fun _ _ _ => content_verbatim) d 0 hu
  rw [hs, content_append, content_gap (gap_of_dropWhile_eq_nil hr), hspelled, List.append_nil]
  rfl

theorem Invocation.content_written {source : String} {v : Invocation}
    (h : Invocation.parse source = .ok v) :
    (Bare source.toList ∧ content v.written = content source.toList ++ ['(', ')']) ∨
      (¬ Bare source.toList ∧ content v.written = content source.toList) := by
  obtain ⟨-, r, hread, hr⟩ := read_eq_ok.1 h
  obtain ⟨g, u, hg, hs, hname, hu⟩ := invocation_eq_done hread
  have hgap := gap_of_dropWhile_eq_nil hr
  have hsource : content source.toList = '#' :: content u := by
    rw [hs, content_append, content_gap hg, content_cons (by decide), content_append, content_gap hgap,
      List.nil_append, List.append_nil]
  have hwritten : content v.written =
      '#' :: content (Expression.callOf v.name v.arguments).written :=
    content_cons (by decide) _
  rcases hu with ⟨hnil, rfl⟩ | hu
  · refine .inl ⟨⟨g, v.name, r, hg, hname, hgap, hs⟩, ?_⟩
    have hcall : (Expression.callOf v.name v.arguments).written = v.name.toList ++ ['(', ')'] := by
      rw [hnil]
      rfl
    rw [hwritten, hsource, hcall, content_append, List.cons_append]
    rfl
  · refine .inr ⟨fun hbare => hbare.not_mem ?_, ?_⟩
    · obtain ⟨name, t, -, -, rfl, -⟩ := hu
      simp [hs]
    · rw [hwritten, hsource, ← Expression.Spelled.content_eq (fun _ _ _ => content_verbatim) _ hu]

/-- What is written for a tree has the content of its source; only behind the bare name of a macro is an
empty list of arguments written. -/
theorem content_render (source : String) :
    (∀ e, Expression.parse source = .ok e → content e.render.toList = content source.toList) ∧
    (∀ d, Declaration.parse source = .ok d → content d.render.toList = content source.toList) ∧
    ∀ v, Invocation.parse source = .ok v →
      (Invocation.Bare source.toList ∧
          content v.render.toList = content source.toList ++ ['(', ')']) ∨
        (¬ Invocation.Bare source.toList ∧ content v.render.toList = content source.toList) := by
  refine ⟨fun e he => ?_, fun d hd => ?_, fun v hv => ?_⟩
  · rw [Expression.toList_render]
    exact Expression.content_written he
  · rw [Declaration.toList_render]
    exact Declaration.content_written hd
  · rw [Invocation.toList_render]
    exact Invocation.content_written hv

/-- A call with a label and with commas at the ends of its lists, a struct with semicolons between its
members, and a macro with arguments and without. -/
theorem content_render_samples :
    (∃ e, Expression.parse "f(to:[ 1 : \"a, b\", ], g(,))" = .ok e ∧
      content e.render.toList = content "f(to:[ 1 : \"a, b\", ], g(,))".toList) ∧
    (∃ d, Declaration.parse "@m struct S\x7b; let a : Int\u00a0= x + 1;; var b\x7d" = .ok d ∧
      content d.render.toList = content "@m struct S\x7b; let a : Int\u00a0= x + 1;; var b\x7d".toList) ∧
    (∃ v, Invocation.parse " #m( 1, )" = .ok v ∧ ¬ Invocation.Bare " #m( 1, )".toList ∧
      content v.render.toList = content " #m( 1, )".toList) ∧
    ∃ v, Invocation.parse " #m\t" = .ok v ∧ Invocation.Bare " #m\t".toList ∧
      content v.render.toList = content " #m\t".toList ++ ['(', ')'] := by
  have hcall : Expression.parse "f(to:[ 1 : \"a, b\", ], g(,))" =
      .ok (.callOf "f" [⟨some "to", .ofPairs [(.integer "1", .ofText "a, b")]⟩, .plain (.callOf "g" [])]) := by
    decide +kernel
  have hstruct : Declaration.parse "@m struct S\x7b; let a : Int\u00a0= x + 1;; var b\x7d" =
      .ok (.body .struct "S" [] [⟨"m"⟩] [
        .binding ⟨"a", some "Int", some (.other "x + 1"), true, [], []⟩,
        .binding ⟨"b", none, none, false, [], []⟩]) := by
    decide +kernel
  have hlist : Invocation.parse " #m( 1, )" = .ok ⟨"m", [.plain (.integer "1")]⟩ := by decide +kernel
  have hbare : Invocation.parse " #m\t" = .ok ⟨"m", []⟩ := by decide +kernel
  refine ⟨⟨_, hcall, (content_render _).1 _ hcall⟩, ⟨_, hstruct, (content_render _).2.1 _ hstruct⟩,
    ⟨_, hlist, ?_⟩, ⟨_, hbare, ?_⟩⟩
  · refine ((content_render _).2.2 _ hlist).resolve_left fun h => ?_
    exact h.1.not_mem (by decide)
  · have hspelled : Invocation.Bare " #m\t".toList :=
      ⟨[' '], "m", ['\t'], gap_space, by decide, gap_of_dropWhile_eq_nil (by decide), rfl⟩
    exact ((content_render _).2.2 _ hbare).resolve_right fun h => h.1 hspelled

end SourceMacros

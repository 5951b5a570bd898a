import SourceMacros.Proofs.Declaration.Aligned
import SourceMacros.Proofs.Declaration.Rendered
import SourceMacros.Proofs.Declaration.Taking
import SourceMacros.Proofs.Expression.Aligned
import SourceMacros.Proofs.Expression.RoundTrip

/-! What was read is read off the text that is written for it, just where no known shape takes one of its
verbatim texts there and no type has an empty text, `reparse_iff`. -/

namespace SourceMacros

open Text Reader Nesting

/-- A text that is parted from what follows and missed by the known shapes is taken. -/
theorem taken_of_missed {p : String × List Char} (hk : Kept p.1) (hp : Parted p) (hm : Missed p) :
    Taken p.1 p.1.toList p.2 := by
  have hsplit : splitVerbatim 0 .outside (p.1.toList ++ p.2) = (p.1.toList, p.2) := hp
  have htrim : trim p.1.toList = p.1.toList := hk.trimmed.trim_self
  have hverbatim : verbatim (p.1.toList ++ p.2) = .done (.other p.1) p.2 :=
    verbatim_eq_done.2 ⟨hk.nonempty, by rw [hsplit, htrim], by rw [hsplit]⟩
  have hshape := expressionShape_eq_other.2 ⟨hm, hverbatim⟩
  obtain ⟨k, t, htext, hgap⟩ := hk.head
  exact ⟨p.2, expression_of_shape (k := k) (by rw [htext]; rfl) hgap hshape, rfl⟩

/-- What is the same for the scan as a part of an accepted source is accepted. -/
theorem tooDeepAt_of_same {source g u r g' w : List Char}
    (hdeep : tooDeepAt limit [] source = none) (hs : source = g ++ (u ++ r)) (hg : Idle g)
    (hg' : Idle g') (h : Same (Scan.of []) u (Scan.of []) w) :
    tooDeepAt limit [] (g' ++ w) = none := by
  rw [Nesting.tooDeepAt_eq_none_iff (Nat.zero_le limit)] at hdeep ⊢
  rw [hs, Scan.peak_append, Scan.peak_append, hg.run rfl, hg.peak, h.peak] at hdeep
  rw [Scan.peak_append, hg'.run rfl, hg'.peak]
  omega

section Expressions

variable {e : Expression}

theorem Expression.taken_of_missed {c : List Char} (he : e.Shaped Kept) (hc : Stops c)
    (hp : ∀ p ∈ e.verbatims c, Parted p) (hm : ∀ p ∈ e.verbatims c, Missed p) :
    e.Spelled Taken e.written c := by
  refine Expression.spelled_written e c he fun p hpc => ?_
  have hkept := (Expression.Shaped.verbatims e he hc p hpc).1
  exact SourceMacros.taken_of_missed hkept (hp p hpc) (hm p hpc)

theorem Expression.rereads_iff {source : String} (h : Expression.parse source = .ok e) :
    Expression.parse e.render = .ok e ↔ ∀ p ∈ e.verbatims [], Missed p := by
  obtain ⟨hdeep, r, hread, -⟩ := read_eq_ok.1 h
  obtain ⟨g, u, hg, hs, -, hu⟩ := expression_eq_done hread
  have hkept := Expression.Spelled.kept e hu
  have hparted := Expression.Spelled.parted e hu stops_nil fun _ => rfl
  constructor
  · intro hrender
    obtain ⟨-, r', hread', -⟩ := read_eq_ok.1 hrender
    rw [Expression.toList_render] at hread'
    obtain ⟨g', u', hg', hs', -, hu'⟩ := expression_eq_done hread'
    have hfront := Expression.Spelled.front (d := []) hkept hu' Gap.nil hg' (by simpa using hs')
    exact (Expression.Spelled.aligned e hkept hu' hparted hfront).2
  · intro hmissed
    have htaken := Expression.taken_of_missed hkept stops_nil hparted hmissed
    obtain ⟨r', hread', hr'⟩ := reads_of_spelled e htaken rfl
    have hsame := Expression.Spelled.same e hu (q := Scan.of []) rfl
    refine read_eq_ok.2 ⟨?_, r', ?_, hr'⟩
    · rw [Expression.toList_render]
      exact tooDeepAt_of_same hdeep hs (idle_gap hg) Idle.nil hsame
    · rwa [Expression.toList_render, ← List.append_nil e.written]

end Expressions

section Invocations

variable {v : Invocation}

theorem Invocation.written_eq (v : Invocation) :
    v.written = '#' :: (Expression.callOf v.name v.arguments).written := rfl

theorem Invocation.parse_render_of_missed
    (hdeep : tooDeepAt limit [] v.written = none)
    (hcall : (Expression.callOf v.name v.arguments).Spelled Taken
      (Expression.callOf v.name v.arguments).written []) : Invocation.parse v.render = .ok v := by
  have hread := invocation_of_spelled hcall
  rw [List.append_nil] at hread
  refine read_eq_ok.2 ⟨?_, [], ?_, rfl⟩
  · rwa [Invocation.toList_render]
  · rwa [Invocation.toList_render, Invocation.written_eq]

theorem Invocation.rereads_iff {source : String} (h : Invocation.parse source = .ok v) :
    Invocation.parse v.render = .ok v ↔ ∀ p ∈ argumentVerbatims v.arguments [')'], Missed p := by
  obtain ⟨hdeep, r, hread, -⟩ := read_eq_ok.1 h
  obtain ⟨g, u, hg, hs, hname, hu⟩ := invocation_eq_done hread
  rcases hu with ⟨hnil, -⟩ | hu
  · -- No list was read, and an empty one is written.
    have hcall : (Expression.callOf v.name v.arguments).WellFormed := by
      rw [hnil]
      exact ⟨⟨v.name, rfl, hname⟩, trivial⟩
    have hsign : Spans false ['#'] 0 := Spans.quiet_single (by decide)
    have hspans := hsign.append hcall.spans
    have hone : (Expression.callOf v.name []).levels = 1 := rfl
    have hlevels : (Expression.callOf v.name v.arguments).levels ≤ limit := by
      rw [hnil, hone]
      decide
    refine iff_of_true (Invocation.parse_render_of_missed ?_ (hcall.taken stops_nil)) ?_
    · rw [Nat.zero_max] at hspans
      exact (hspans.tooDeepAt_eq_none_iff limit).2 hlevels
    · rw [hnil]
      simp [argumentVerbatims]
  · have hkept := Expression.Spelled.kept _ hu
    have hparted := Expression.Spelled.parted _ hu stops_nil fun _ => rfl
    constructor
    · intro hrender
      obtain ⟨-, r', hread', -⟩ := read_eq_ok.1 hrender
      rw [Invocation.toList_render, Invocation.written_eq] at hread'
      obtain ⟨g', u', hg', hs', -, hu'⟩ := invocation_eq_done hread'
      obtain ⟨-, -, hrest⟩ := span_cancel Gap.nil hg' (by decide) (by decide) hs'
      rcases hu' with ⟨hnil, -⟩ | hu'
      · rw [hnil]
        simp [argumentVerbatims]
      · exact (Expression.Spelled.aligned _ hkept hu' hparted (by simpa using hrest)).2
    · intro hmissed
      have hcall := Expression.taken_of_missed hkept stops_nil hparted hmissed
      have hsame := Expression.Spelled.same _ hu (q := Scan.of []) rfl
      have hsign : Idle ['#'] := idle_single (by decide)
      have hwritten : tooDeepAt limit [] (['#'] ++ (Expression.callOf v.name v.arguments).written) = none :=
        tooDeepAt_of_same (g := g ++ ['#']) hdeep (by simpa using hs) ((idle_gap hg).append hsign)
          hsign hsame
      exact Invocation.parse_render_of_missed hwritten hcall

end Invocations

section Declarations

variable {d : Declaration}

theorem Declaration.kept_of_parse {source : String} (h : Declaration.parse source = .ok d) :
    d.Shaped Kept KeptType := by
  obtain ⟨-, r, hread, -⟩ := read_eq_ok.1 h
  obtain ⟨u, -, hu⟩ := declaration_eq_done hread
  exact Declaration.Spelled.kept d hu

theorem Declaration.rereads_iff {source : String} (h : Declaration.parse source = .ok d) :
    Declaration.parse d.render = .ok d ↔
      (∀ p ∈ d.verbatimsAt 0 [], Missed p) ∧ ∀ text ∈ d.types, text ≠ "" := by
  have hempty : ∀ text : String, text.toList ≠ [] ↔ text ≠ "" := by simp
  obtain ⟨hdeep, r, hread, -⟩ := read_eq_ok.1 h
  obtain ⟨u, hs, hu⟩ := declaration_eq_done hread
  have hkept := Declaration.Spelled.kept d hu
  have hparted := Declaration.Spelled.parted d 0 hu stops_nil fun _ => rfl
  have hline : EndsLine [] := by simp [EndsLine]
  constructor
  · intro hrender
    obtain ⟨-, r', hread', -⟩ := read_eq_ok.1 hrender
    rw [Declaration.toList_render] at hread'
    obtain ⟨u', hs', hu'⟩ := declaration_eq_done hread'
    have hwritten : d.writtenAt 0 ++ [] = u' ++ r' := (List.append_nil _).trans hs'
    obtain ⟨-, hmissed, htypes⟩ := Declaration.Spelled.aligned d 0 hkept hu' hline hparted hwritten
    exact ⟨hmissed, fun text ht => (hempty text).1 (htypes text ht)⟩
  · rintro ⟨hmissed, htypes⟩
    have hshaped := hkept.typed htypes
    have htaken : d.Spelled Taken (d.writtenAt 0) [] := by
      refine Declaration.spelled_written d 0 hline hshaped fun p hp => ?_
      have hk := (Declaration.Shaped.verbatims d 0 hshaped stops_nil p hp).1
      exact taken_of_missed hk (hparted p hp) (hmissed p hp)
    obtain ⟨r', hread', hr'⟩ := declaration_of_spelled d htaken (by simp [Quits])
    have hsame := Declaration.Spelled.same d 0 hu (Alike.refl (q := Scan.of []) (Scan.sane_of_not_escaped rfl))
    refine read_eq_ok.2 ⟨?_, r', ?_, hr'⟩
    · rw [Declaration.toList_render]
      exact tooDeepAt_of_same (g := []) hdeep hs Idle.nil Idle.nil hsame
    · rwa [Declaration.toList_render, ← List.append_nil d.written]

end Declarations

/-- What was read is read again, just where no known shape takes one of its verbatim texts in the text that
is written for it, and no type has an empty text. -/
theorem reparse_iff (source : String) :
    (∀ e, Expression.parse source = .ok e →
      (Expression.parse e.render = .ok e ↔ ∀ p ∈ e.verbatims [], Missed p)) ∧
    (∀ v, Invocation.parse source = .ok v →
      (Invocation.parse v.render = .ok v ↔ ∀ p ∈ argumentVerbatims v.arguments [')'], Missed p)) ∧
    ∀ d, Declaration.parse source = .ok d →
      (Declaration.parse d.render = .ok d ↔
        (∀ p ∈ d.verbatimsAt 0 [], Missed p) ∧ ∀ text ∈ d.types, text ≠ "") :=
  ⟨fun _ => Expression.rereads_iff, fun _ => Invocation.rereads_iff, fun _ => Declaration.rereads_iff⟩

/-- A call with a verbatim sum, read with gaps between its parts. -/
theorem reparse_iff_sum : ∃ e, Expression.parse "f( a + b ,1 )" = .ok e ∧
    Expression.parse e.render = .ok e := by
  have hparse : Expression.parse "f( a + b ,1 )" =
      .ok (.callOf "f" [.plain (.other "a + b"), .plain (.integer "1")]) := by
    decide +kernel
  have hmissed : Missed ("a + b", ", 1)".toList) := ⟨" + b, 1)".toList, by decide +kernel⟩
  refine ⟨_, hparse, ((reparse_iff _).1 _ hparse).2 fun p hp => ?_⟩
  obtain rfl : p = ("a + b", ", 1)".toList) := by
    simpa [Expression.callOf, Argument.plain, Expression.verbatims, argumentVerbatims, othersWritten,
      argumentsWritten, Expression.written] using hp
  exact hmissed

/-- An integer with another blank after it is verbatim, unlike an expression with the same text; a type of
such a blank alone has an empty text, with which nothing is read. -/
theorem reparse_blank :
    (Expression.parse "1\u00a0" = .ok (.other "1") ∧
      Expression.parse (Expression.other "1").render = .ok (.integer "1")) ∧
    ∃ d, Declaration.parse "var x:\u00a0" = .ok d ∧ Declaration.parse d.render ≠ .ok d := by
  refine ⟨⟨by decide +kernel, by decide +kernel⟩, .binding ⟨"x", some "", none, false, [], []⟩, ?_, ?_⟩
  · decide +kernel
  · decide +kernel

end SourceMacros

import SourceMacros.Proofs.Declaration.Depth
import SourceMacros.Proofs.Declaration.Taking
import SourceMacros.Proofs.Expression.RoundTrip

/-! What the scan ahead of reading promises: nothing that is read nests deeper than the limit, if the scan
leaves every verbatim text and every text of a type as it entered them, `nesting_le_limit`. -/

namespace SourceMacros

open Text Reader Nesting

/-- What is open for the scan after the text is what was open before it. -/
def Nesting.Closes (text : String) : Prop := ∃ d, Spans false text.toList d

/-- The levels that a text opens by itself. -/
def Nesting.span (text : String) : Nat := (Scan.of []).peak text.toList

/-- The literals, interpolations and lists inside each other. -/
def Expression.nesting (e : Expression) : Nat := e.depth fun _ => 0

def Invocation.nesting (v : Invocation) : Nat := argumentsDepth (fun _ => 0) v.arguments + 1

def Declaration.nesting (d : Declaration) : Nat := d.depth (fun _ => 0) fun _ => 0

theorem Nesting.Closes.spans {text : String} (h : Closes text) :
    Spans false text.toList (span text) := by
  obtain ⟨d, hd⟩ := h
  have hspan : span text = d := (hd.peak_eq [] (by simp)).trans (Nat.zero_add d)
  rwa [hspan]

theorem Reader.Verbatim.spans {text : String} {u c : List Char} (h : Verbatim text u c)
    (hclosed : Closes text) : Spans false u (span text) := by
  obtain ⟨-, -, -, b, b', hb, hb', rfl⟩ := h.split
  have hblank : ∀ b : List Char, Blank b → Spans false b 0 := fun b hb =>
    Spans.quiet fun c hc => isQuiet_of_isBlank (hb c hc)
  simpa using (hblank b hb).append (hclosed.spans.append (hblank b' hb'))

section Mono

variable {other other' type type' : String → Nat}

mutual

theorem Expression.depth_mono (h : ∀ text, other text ≤ other' text) :
    (e : Expression) → e.depth other ≤ e.depth other'
  | .integer _ => le_rfl
  | .string segments => Nat.succ_le_succ (segmentsDepth_mono h segments)
  | .dictionary entries => Nat.succ_le_succ (entriesDepth_mono h entries)
  | .identifier _ => le_rfl
  | .call _ arguments => Nat.succ_le_succ (argumentsDepth_mono h arguments)
  | .other text => h text

theorem segmentsDepth_mono (h : ∀ text, other text ≤ other' text) :
    (segments : List Segment) → segmentsDepth other segments ≤ segmentsDepth other' segments
  | [] => le_rfl
  | .text _ :: segments => segmentsDepth_mono h segments
  | .interpolation value :: segments =>
    max_le_max (Nat.succ_le_succ (Expression.depth_mono h value)) (segmentsDepth_mono h segments)

theorem entriesDepth_mono (h : ∀ text, other text ≤ other' text) :
    (entries : List Entry) → entriesDepth other entries ≤ entriesDepth other' entries
  | [] => le_rfl
  | ⟨key, value⟩ :: entries =>
    max_le_max (max_le_max (Expression.depth_mono h key) (Expression.depth_mono h value))
      (entriesDepth_mono h entries)

theorem argumentsDepth_mono (h : ∀ text, other text ≤ other' text) :
    (arguments : List Argument) → argumentsDepth other arguments ≤ argumentsDepth other' arguments
  | [] => le_rfl
  | ⟨_, value⟩ :: arguments =>
    max_le_max (Expression.depth_mono h value) (argumentsDepth_mono h arguments)

end

mutual

theorem Declaration.depth_mono (h : ∀ text, other text ≤ other' text)
    (htype : ∀ text, type text ≤ type' text) : (d : Declaration) →
    d.depth other type ≤ d.depth other' type'
  | .binding b => by
    have hparts : b.typeText.elim 0 type ≤ b.typeText.elim 0 type' := by
      cases b.typeText with
      | none => exact le_rfl
      | some text => exact htype text
    have hinit : b.initializer.elim 0 (·.depth other) ≤ b.initializer.elim 0 (·.depth other') := by
      cases b.initializer with
      | none => exact le_rfl
      | some e => exact e.depth_mono h
    exact max_le_max hparts hinit
  | .body _ _ _ _ members => Nat.succ_le_succ (membersDepth_mono h htype members)

theorem membersDepth_mono (h : ∀ text, other text ≤ other' text)
    (htype : ∀ text, type text ≤ type' text) : (ds : List Declaration) →
    membersDepth other type ds ≤ membersDepth other' type' ds
  | [] => le_rfl
  | d :: ds => max_le_max (Declaration.depth_mono h htype d) (membersDepth_mono h htype ds)

end

end Mono

/-- A text in an accepted source spans no more levels than are allowed. -/
theorem le_limit_of_spans {source u v w : List Char} {d : Nat}
    (hdeep : tooDeepAt limit [] source = none) (hs : source = u ++ (v ++ w)) (hu : Spans false u 0)
    (hv : Spans false v d) : d ≤ limit := by
  have hpeak := (Nesting.tooDeepAt_eq_none_iff (Nat.zero_le limit) source).1 hdeep
  rw [hs, Scan.peak_append, hu.run_eq [] (by simp), Scan.peak_append, hv.peak_eq [] (by simp)] at hpeak
  simp only [List.length_nil, Nat.zero_add] at hpeak
  omega

theorem refines_spans {texts : List String} (h : ∀ text ∈ texts, Closes text) :
    Refines Verbatim (fun text u _ => Spans false u (span text)) texts :=
  fun text ht _ _ _ hv => hv.spans (h text ht)

theorem Expression.nesting_le {source : String} {e : Expression}
    (h : Expression.parse source = .ok e) (hclosed : ∀ text ∈ e.others, Closes text) :
    e.nesting ≤ limit := by
  obtain ⟨hdeep, r, hread, -⟩ := read_eq_ok.1 h
  obtain ⟨g, u, hg, hs, hends, hu⟩ := expression_eq_done hread
  have hspelled := Expression.Spelled.mono e (refines_spans hclosed) hu fun _ _ => hends
  have hspans := Expression.Spelled.spans (fun _ _ _ hv => hv) e hspelled
  exact (e.depth_mono fun _ => Nat.zero_le _).trans (le_limit_of_spans hdeep hs (spans_gap hg) hspans)

theorem Invocation.nesting_le {source : String} {v : Invocation}
    (h : Invocation.parse source = .ok v)
    (hclosed : ∀ text ∈ argumentOthers v.arguments, Closes text) : v.nesting ≤ limit := by
  obtain ⟨hdeep, r, hread, -⟩ := read_eq_ok.1 h
  obtain ⟨g, u, hg, hs, -, ⟨hnil, -⟩ | hu⟩ := invocation_eq_done hread
  · rw [Invocation.nesting, hnil]
    decide
  · have hspelled := Expression.Spelled.mono (.callOf v.name v.arguments) (refines_spans hclosed) hu
      (by simp [Expression.callOf])
    have hspans := Expression.Spelled.spans (fun _ _ _ hv => hv) _ hspelled
    have hsign : Spans false (g ++ ['#']) 0 := (spans_gap hg).append (Spans.quiet_single (by decide))
    have hmono : (Expression.callOf v.name v.arguments).depth (fun _ => 0) ≤
        (Expression.callOf v.name v.arguments).depth span := Expression.depth_mono (fun _ => Nat.zero_le _) _
    exact hmono.trans (le_limit_of_spans hdeep (by simpa using hs) hsign hspans)

theorem Declaration.nesting_le {source : String} {d : Declaration}
    (h : Declaration.parse source = .ok d) (hclosed : ∀ text ∈ d.others, Closes text)
    (htypes : ∀ text ∈ d.types, Closes text) : d.nesting ≤ limit := by
  obtain ⟨hdeep, r, hread, -⟩ := read_eq_ok.1 h
  obtain ⟨u, hs, hu⟩ := declaration_eq_done hread
  have hspelled := Declaration.Spelled.mono d (refines_spans hclosed) hu
  have hspans := Declaration.Spelled.spans (fun _ _ _ hv => hv) d
    (fun text ht => (htypes text ht).spans) hspelled
  have hmono := d.depth_mono (fun text => Nat.zero_le (span text)) fun text => Nat.zero_le (span text)
  exact hmono.trans (le_limit_of_spans hdeep (u := []) hs Spans.nil hspans)

def nestedKeys : Nat → Expression
  | 0 => .dictionary []
  | n + 1 => .dictionary [⟨nestedKeys n, .identifier "a"⟩]

/-- A text that is verbatim wherever it stands, and in which the scan waits for the end of a literal when
it is over. -/
structure Opens (text : String) : Prop where
  taken : ∀ c, Stops c → Taken text text.toList c
  run_eq : ∃ F, (Scan.of [.group]).run text.toList = Scan.of (.text :: F)
  peak_le : (Scan.of [.group]).peak text.toList ≤ limit

/-- A call whose first argument keeps what the second one opens from the scan. -/
def hidingCall (text : String) (n : Nat) : Expression :=
  .callOf "f" [.plain (.other text), .plain (nestedKeys n)]

theorem depth_nestedKeys (n : Nat) (other : String → Nat) :
    (nestedKeys n).depth other = n + 1 := by
  induction n with
  | zero => rfl
  | succ n ih => simp [nestedKeys, Expression.depth, entriesDepth, ih]

theorem shaped_nestedKeys (n : Nat) (other : String → Prop) : (nestedKeys n).Shaped other := by
  induction n with
  | zero => trivial
  | succ n ih =>
    have hvalue : isIdentifier "a" = true := by decide
    exact ⟨ih, hvalue, trivial⟩

/-- Within literals the scan passes over dictionaries. -/
theorem spans_nestedKeys (n : Nat) : Spans true (nestedKeys n).written 0 := by
  have hpass : ∀ s : List Char, (s.all fun c => c != '"' && c != '\\') = true → Spans true s 0 := by
    intro s hs
    induction s with
    | nil => exact Spans.nil
    | cons c s ih =>
      simp only [List.all_cons, Bool.and_eq_true, bne_iff_ne, ne_eq] at hs
      exact (Spans.text_single hs.1.1 hs.1.2).append (ih (by simpa using hs.2))
  induction n with
  | zero => exact hpass _ (by decide)
  | succ n ih =>
    have hopen := hpass ['['] (by decide)
    have hrest := hpass ": a]".toList (by decide)
    simpa [nestedKeys, Expression.written, entriesWritten, commaSeparated] using
      hopen.append (ih.append hrest)

section Opens

variable {text : String}

theorem shaped_hidingCall (text : String) (n : Nat) : (hidingCall text n).Shaped (· = text) :=
  ⟨⟨"f", rfl, by decide⟩, by simp, rfl, by simp, shaped_nestedKeys n _, trivial⟩

theorem nesting_hidingCall (text : String) (n : Nat) : (hidingCall text n).nesting = n + 2 := by
  simp [Expression.nesting, hidingCall, Expression.callOf, Expression.depth, argumentsDepth,
    Argument.plain, depth_nestedKeys]

theorem Opens.spelled (h : Opens text) (n : Nat) {c : List Char} (hc : Stops c) :
    (hidingCall text n).Spelled Taken (hidingCall text n).written c := by
  refine Expression.spelled_written _ c (shaped_hidingCall text n) fun p hp => ?_
  obtain ⟨htext, hstops⟩ := Expression.Shaped.verbatims _ (shaped_hidingCall text n) hc p hp
  rw [htext]
  exact h.taken p.2 hstops

/-- However deep the second argument nests, the scan counts no level of it. -/
theorem Opens.tooDeepAt (h : Opens text) (n : Nat) {u : List Char} (hu : Spans false u 0) :
    tooDeepAt limit [] (u ++ (hidingCall text n).written) = none := by
  obtain ⟨F, hF⟩ := h.run_eq
  have hwritten : (hidingCall text n).written =
      "f(".toList ++ (text.toList ++ (", ".toList ++ ((nestedKeys n).written ++ [')']))) := by
    simp [hidingCall, Expression.callOf, Expression.written, argumentsWritten, commaSeparated,
      Argument.plain]
  have hopen : (Scan.of []).run "f(".toList = Scan.of [.group] ∧ (Scan.of []).peak "f(".toList = 1 :=
    ⟨rfl, rfl⟩
  have hspans : Spans true (", ".toList ++ ((nestedKeys n).written ++ [')'])) 0 := by
    have hcomma : Spans true ", ".toList 0 :=
      (Spans.text_single (by decide) (by decide)).append (Spans.text_single (by decide) (by decide))
    have hclose : Spans true [')'] 0 := Spans.text_single (by decide) (by decide)
    exact hcomma.append ((spans_nestedKeys n).append hclose)
  have hlength : (Frame.text :: F).length ≤ limit := by
    have hpeak := Scan.length_run_le_peak (Scan.of [.group]) text.toList
    rw [hF] at hpeak
    exact hpeak.trans h.peak_le
  rw [Nesting.tooDeepAt_eq_none_iff (Nat.zero_le limit), Scan.peak_append, hu.run_eq [] (by simp),
    hu.peak_eq [] (by simp), hwritten, Scan.peak_append, hopen.1, hopen.2, Scan.peak_append, hF,
    hspans.peak_eq _ (by simp)]
  have hpeak := h.peak_le
  have hlimit : 1 ≤ limit := by decide
  simp only [List.length_nil] at hlength ⊢
  omega

theorem Opens.parse_call (h : Opens text) (n : Nat) :
    Expression.parse (hidingCall text n).render = .ok (hidingCall text n) := by
  obtain ⟨r, hread, hr⟩ := reads_of_spelled _ (h.spelled n stops_nil) rfl
  refine read_eq_ok.2 ⟨?_, r, ?_, hr⟩
  · rw [Expression.toList_render]
    exact h.tooDeepAt n Spans.nil
  · rwa [Expression.toList_render, ← List.append_nil (hidingCall text n).written]

def hidingInvocation (text : String) (n : Nat) : Invocation :=
  ⟨"f", [.plain (.other text), .plain (nestedKeys n)]⟩

theorem Opens.parse_invocation (h : Opens text) (n : Nat) :
    Invocation.parse (hidingInvocation text n).render = .ok (hidingInvocation text n) := by
  have hwritten : (hidingInvocation text n).render.toList = ['#'] ++ (hidingCall text n).written := by
    rw [Invocation.toList_render]
    rfl
  have hread := invocation_of_spelled (h.spelled n stops_nil)
  refine read_eq_ok.2 ⟨?_, [], ?_, rfl⟩
  · rw [hwritten]
    exact h.tooDeepAt n (Spans.quiet_single (by decide))
  · rw [hwritten]
    rwa [List.append_nil] at hread

def hidingDeclaration (text : String) (n : Nat) : Declaration :=
  .binding ⟨"a", none, some (hidingCall text n), false, [], []⟩

theorem Opens.parse_declaration (h : Opens text) (n : Nat) :
    Declaration.parse (hidingDeclaration text n).render = .ok (hidingDeclaration text n) := by
  have hname : isIdentifier "a" = true := by decide
  have hshaped : (hidingDeclaration text n).Shaped (· = text) IsTypeText :=
    ⟨by simp, hname, by simp, by simpa using shaped_hidingCall text n⟩
  have hspelled : (hidingDeclaration text n).Spelled Taken (hidingDeclaration text n).written [] := by
    refine Declaration.spelled_written _ 0 (by simp [EndsLine]) hshaped fun p hp => ?_
    obtain ⟨htext, hstops⟩ := Declaration.Shaped.verbatims _ 0 hshaped stops_nil p hp
    rw [htext]
    exact h.taken p.2 hstops
  obtain ⟨r, hread, hr⟩ := declaration_of_spelled _ hspelled (by simp [Quits])
  have hwritten : (hidingDeclaration text n).written =
      "var a = ".toList ++ (hidingCall text n).written := by
    simp [hidingDeclaration, Declaration.written, Declaration.writtenAt, Binding.written, leadWritten]
  have hlead : Spans false "var a = ".toList 0 :=
    Spans.quiet (List.all_eq_true.1 (by decide : "var a = ".toList.all isQuiet = true))
  refine read_eq_ok.2 ⟨?_, r, ?_, hr⟩
  · rw [Declaration.toList_render, hwritten]
    exact h.tooDeepAt n hlead
  · rwa [Declaration.toList_render, ← List.append_nil (hidingDeclaration text n).written]

end Opens

def openText : String := "+\"\\(\""

theorem opens_openText : Opens openText := by
  refine ⟨fun c hc => ?_, ⟨[.group, .text, .group], rfl⟩, by decide⟩
  have hsplit : splitVerbatim 0 .outside (openText.toList ++ c) = (openText.toList, c) := by
    have hstop : splitVerbatim 0 .outside c = ([], c) := by
      cases c with
      | nil => rfl
      | cons k c => simp [splitVerbatim, hc k rfl]
    simp [openText, splitVerbatim, hstop, isDelimiter, isOpener, isCloser]
  have hverbatim : verbatim (openText.toList ++ c) = .done (.other openText) c :=
    verbatim_eq_done.2 ⟨by decide, by rw [hsplit]; rfl, by rw [hsplit]⟩
  have hmiss : knownShape expression (openText.toList ++ c) = .miss (openText.toList ++ c) := rfl
  have hshape := expressionShape_eq_other.2 ⟨⟨_, hmiss⟩, hverbatim⟩
  exact ⟨c, expression_of_shape (k := '+') rfl (by decide) hshape, rfl⟩

/-- What is read nests within the limit, if the scan leaves every verbatim text as it entered it. A text that
leaves a literal open hides any nesting behind it. -/
theorem nesting_le_limit (source : String) :
    (∀ e, Expression.parse source = .ok e → (∀ text ∈ e.others, Closes text) →
      e.nesting ≤ limit) ∧
    (∀ v, Invocation.parse source = .ok v → (∀ text ∈ argumentOthers v.arguments, Closes text) →
      v.nesting ≤ limit) ∧
    (∀ d, Declaration.parse source = .ok d → (∀ text ∈ d.others, Closes text) →
      (∀ text ∈ d.types, Closes text) → d.nesting ≤ limit) ∧
    ∀ text, Opens text → ∀ n, (∃ deeper e, Expression.parse deeper = .ok e ∧ n < e.nesting) ∧
      (∃ deeper v, Invocation.parse deeper = .ok v ∧ n < v.nesting) ∧
      ∃ deeper d, Declaration.parse deeper = .ok d ∧ n < d.nesting := by
  refine ⟨fun _ => Expression.nesting_le, fun _ => Invocation.nesting_le,
    fun _ => Declaration.nesting_le, fun text h n => ?_⟩
  have hdeep : n < (hidingCall text n).nesting := by
    rw [nesting_hidingCall]
    omega
  have hbinding : (hidingDeclaration text n).nesting = (hidingCall text n).nesting := Nat.zero_max _
  exact ⟨⟨_, _, h.parse_call n, hdeep⟩, ⟨_, _, h.parse_invocation n, hdeep⟩,
    ⟨_, _, h.parse_declaration n, hbinding ▸ hdeep⟩⟩

/-- A call with a dictionary around a verbatim sum. -/
theorem nesting_le_limit_sum : ∃ e, Expression.parse "f([a + (b): 1])" = .ok e ∧ e.nesting ≤ limit := by
  have hparse : Expression.parse "f([a + (b): 1])" =
      .ok (.callOf "f" [.plain (.dictionary [⟨.other "a + (b)", .integer "1"⟩])]) := by
    decide +kernel
  have hcloses : Closes "a + (b)" := by
    have hbracketed : isBracketed isDelimiter 0 "a + (b)".toList = true := by decide
    exact ⟨_, spans_of_isBracketed hbracketed⟩
  exact ⟨_, hparse, (nesting_le_limit _).1 _ hparse (by
    simpa [Expression.callOf, Expression.others, argumentOthers, entryOthers, Argument.plain] using hcloses)⟩

/-- Dictionaries and a call, one level deeper than allowed, behind a text with an open literal. -/
theorem nesting_hidden :
    ∃ e, Expression.parse "f(+\"\\(\", [[[[[[[[[[[[[[[[[[[[[[[[[[[[[[[[:]: a]: a]: a]: a]: a]: a]: a]: a]: a]: a]: a]: a]: a]: a]: a]: a]: a]: a]: a]: a]: a]: a]: a]: a]: a]: a]: a]: a]: a]: a]: a])" = .ok e ∧ limit < e.nesting := by
  have hrender : (hidingCall openText 31).render = "f(+\"\\(\", [[[[[[[[[[[[[[[[[[[[[[[[[[[[[[[[:]: a]: a]: a]: a]: a]: a]: a]: a]: a]: a]: a]: a]: a]: a]: a]: a]: a]: a]: a]: a]: a]: a]: a]: a]: a]: a]: a]: a]: a]: a]: a])" := by
    cbv
  refine ⟨hidingCall openText 31, ?_, by rw [nesting_hidingCall]; decide⟩
  rw [← hrender]
  exact opens_openText.parse_call 31

end SourceMacros

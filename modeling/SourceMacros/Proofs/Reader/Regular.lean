import Mathlib.Data.List.Chain
import SourceMacros.Proofs.Reader.Reparse

/-! The shapes that reading promises to what works on its result: every node of a tree that was read, at
whatever depth, holds names, texts and parts as the grammar has them, `regular_of_parse`. -/

namespace SourceMacros

open Text Reader

/-- The first expression stands somewhere in the second, or is all of it. -/
inductive Expression.OccursIn : Expression → Expression → Prop
  | self (e : Expression) : OccursIn e e
  | interpolation {n value : Expression} {segments : List Segment}
    (hvalue : .interpolation value ∈ segments) (h : OccursIn n value) : OccursIn n (.string segments)
  | key {n : Expression} {entry : Entry} {entries : List Entry} (hentry : entry ∈ entries)
    (h : OccursIn n entry.key) : OccursIn n (.dictionary entries)
  | value {n : Expression} {entry : Entry} {entries : List Entry} (hentry : entry ∈ entries)
    (h : OccursIn n entry.value) : OccursIn n (.dictionary entries)
  | callee {n callee : Expression} (arguments : List Argument) (h : OccursIn n callee) :
    OccursIn n (.call callee arguments)
  | argument {n : Expression} (callee : Expression) {a : Argument} {arguments : List Argument}
    (ha : a ∈ arguments) (h : OccursIn n a.value) : OccursIn n (.call callee arguments)

inductive Declaration.OccursIn : Declaration → Declaration → Prop
  | self (d : Declaration) : OccursIn d d
  | member {d m : Declaration} {members : List Declaration} (kind : BodyKind) (name : String)
    (modifiers : List Modifier) (attributes : List Attribute) (hm : m ∈ members) (h : OccursIn d m) :
    OccursIn d (.body kind name modifiers attributes members)

/-- What a node holds beside other nodes is as the grammar has it. -/
def Expression.Regular : Expression → Prop
  | .integer text => isIntegerText text.toList = true
  | .string segments =>
    (∀ text, .text text ∈ segments → text ≠ "" ∧ isLiteralText text.toList = true) ∧
      segments.IsChain fun s t => s.isText = true → t.isText = false
  | .dictionary _ => True
  | .identifier name => isIdentifier name = true
  | .call callee arguments =>
    (∃ name, callee = .identifier name) ∧
      ∀ a ∈ arguments, ∀ name ∈ a.label, isIdentifier name = true
  | .other text => text ≠ "" ∧ trim text.toList = text.toList

def Declaration.Regular : Declaration → Prop
  | .binding b =>
    isIdentifier b.name = true ∧ (∀ a ∈ b.attributes, isIdentifier a.name = true) ∧
      (∀ text ∈ b.typeText, (∀ c ∈ text.toList, inType c = true) ∧ trimEnd text.toList = text.toList) ∧
      ∀ e ∈ b.initializer, ∀ n : Expression, n.OccursIn e → n.Regular
  | .body _ name _ attributes _ =>
    isIdentifier name = true ∧ ∀ a ∈ attributes, isIdentifier a.name = true

section Occurrences

variable {other type : String → Prop}

theorem SegmentsShaped.of_mem {segments : List Segment} (h : SegmentsShaped other segments)
    {value : Expression} (hvalue : .interpolation value ∈ segments) : value.Shaped other := by
  induction segments with
  | nil => cases hvalue
  | cons s segments ih =>
    cases s with
    | text text => exact ih h.2 (by simpa using hvalue)
    | interpolation v =>
      rcases List.mem_cons.1 hvalue with heq | hvalue
      · obtain rfl := Segment.interpolation.inj heq
        exact h.1
      · exact ih h.2 hvalue

theorem EntriesShaped.of_mem {entries : List Entry} (h : EntriesShaped other entries) {entry : Entry}
    (hentry : entry ∈ entries) : entry.key.Shaped other ∧ entry.value.Shaped other := by
  induction entries with
  | nil => cases hentry
  | cons e entries ih =>
    cases e with | mk key value =>
    obtain ⟨hkey, hvalue, hentries⟩ := h
    rcases List.mem_cons.1 hentry with rfl | hentry
    · exact ⟨hkey, hvalue⟩
    · exact ih hentries hentry

theorem ArgumentsShaped.of_mem {arguments : List Argument} (h : ArgumentsShaped other arguments)
    {a : Argument} (ha : a ∈ arguments) :
    (∀ name ∈ a.label, isIdentifier name = true) ∧ a.value.Shaped other := by
  induction arguments with
  | nil => cases ha
  | cons b arguments ih =>
    cases b with | mk label value =>
    obtain ⟨hlabel, hvalue, harguments⟩ := h
    rcases List.mem_cons.1 ha with rfl | ha
    · exact ⟨hlabel, hvalue⟩
    · exact ih harguments ha

theorem MembersShaped.of_mem {members : List Declaration} (h : MembersShaped other type members)
    {m : Declaration} (hm : m ∈ members) : m.Shaped other type := by
  induction members with
  | nil => cases hm
  | cons d members ih =>
    rcases List.mem_cons.1 hm with rfl | hm
    · exact h.1
    · exact ih h.2 hm

theorem Expression.Shaped.of_occursIn {n e : Expression} (h : n.OccursIn e) (he : e.Shaped other) :
    n.Shaped other := by
  induction h with
  | self => exact he
  | interpolation hvalue _ ih => exact ih (SegmentsShaped.of_mem he hvalue)
  | key hentry _ ih => exact ih (EntriesShaped.of_mem he hentry).1
  | value hentry _ ih => exact ih (EntriesShaped.of_mem he hentry).2
  | callee arguments _ ih =>
    obtain ⟨⟨name, rfl, hname⟩, -⟩ := he
    exact ih hname
  | argument callee ha _ ih => exact ih (ArgumentsShaped.of_mem he.2 ha).2

theorem Declaration.Shaped.of_occursIn {m d : Declaration} (h : m.OccursIn d)
    (hd : d.Shaped other type) : m.Shaped other type := by
  induction h with
  | self => exact hd
  | member kind name modifiers attributes hm _ ih => exact ih (MembersShaped.of_mem hd.2.2 hm)

end Occurrences

theorem SegmentsShaped.regular {segments : List Segment} (h : SegmentsShaped Kept segments) :
    (Expression.string segments).Regular := by
  induction segments with
  | nil => exact ⟨by simp, .nil⟩
  | cons s segments ih =>
    cases s with
    | text value =>
      obtain ⟨⟨hne, htext, hnext⟩, hsegments⟩ := h
      obtain ⟨htexts, hchain⟩ := ih hsegments
      refine ⟨fun text ht => ?_, List.isChain_cons.2 ⟨fun s hs _ => hnext s hs, hchain⟩⟩
      rcases List.mem_cons.1 ht with heq | ht
      · obtain rfl := Segment.text.inj heq
        exact ⟨by simpa using hne, htext⟩
      · exact htexts text ht
    | interpolation value =>
      obtain ⟨htexts, hchain⟩ := ih h.2
      refine ⟨fun text ht => htexts text (by simpa using ht), List.isChain_cons.2 ⟨?_, hchain⟩⟩
      intro s _ htext
      cases htext

theorem Expression.Shaped.regular {e : Expression} (h : e.Shaped Kept) : e.Regular := by
  cases e with
  | integer text => exact h
  | string segments => exact SegmentsShaped.regular h
  | dictionary entries => exact trivial
  | identifier name => exact h
  | call callee arguments =>
    obtain ⟨⟨name, hcallee, -⟩, harguments⟩ := h
    exact ⟨⟨name, hcallee⟩, fun a ha => (harguments.of_mem ha).1⟩
  | other text => exact ⟨by simpa using h.nonempty, h.trimmed.trim_self⟩

theorem Expression.Shaped.regular_of_occursIn {n e : Expression} (he : e.Shaped Kept)
    (h : n.OccursIn e) : n.Regular := (he.of_occursIn h).regular

theorem KeptType.regular {text : String} (h : KeptType text) :
    (∀ c ∈ text.toList, inType c = true) ∧ trimEnd text.toList = text.toList := by
  by_cases hne : text.toList = []
  · simp [hne, trimEnd]
  · have htype := h hne
    exact ⟨htype.inType, by simpa using trimEnd_append Blank.nil htype.ended⟩

theorem Declaration.Shaped.regular {d : Declaration} (h : d.Shaped Kept KeptType) : d.Regular := by
  cases d with
  | binding b =>
    obtain ⟨hattributes, hname, htype, hinitializer⟩ := h
    exact ⟨hname, hattributes, fun text ht => (htype text ht).regular,
      fun e he _ hn => (hinitializer e he).regular_of_occursIn hn⟩
  | body kind name modifiers attributes members => exact ⟨h.2.1, h.1⟩

theorem Expression.kept_of_parse {source : String} {e : Expression} (h : Expression.parse source = .ok e) :
    e.Shaped Kept := by
  obtain ⟨-, r, hread, -⟩ := read_eq_ok.1 h
  obtain ⟨_, _, -, -, -, hu⟩ := expression_eq_done hread
  exact Expression.Spelled.kept e hu

theorem Invocation.kept_of_parse {source : String} {v : Invocation} (h : Invocation.parse source = .ok v) :
    isIdentifier v.name = true ∧ ArgumentsShaped Kept v.arguments := by
  obtain ⟨-, r, hread, -⟩ := read_eq_ok.1 h
  obtain ⟨_, _, -, -, hname, ⟨hnil, -⟩ | hu⟩ := invocation_eq_done hread
  · rw [hnil]
    exact ⟨hname, trivial⟩
  · exact ⟨hname, (Expression.Spelled.kept _ hu).2⟩

/-- What was read is regular at each of its nodes. -/
theorem regular_of_parse (source : String) :
    (∀ e, Expression.parse source = .ok e → ∀ n : Expression, n.OccursIn e → n.Regular) ∧
    (∀ v, Invocation.parse source = .ok v → isIdentifier v.name = true ∧
      ∀ a ∈ v.arguments, (∀ name ∈ a.label, isIdentifier name = true) ∧
        ∀ n : Expression, n.OccursIn a.value → n.Regular) ∧
    ∀ d, Declaration.parse source = .ok d → ∀ m : Declaration, m.OccursIn d → m.Regular := by
  refine ⟨fun e h n hn => ?_, fun v h => ?_, fun d h m hm => ?_⟩
  · exact (Expression.kept_of_parse h).regular_of_occursIn hn
  · obtain ⟨hname, harguments⟩ := Invocation.kept_of_parse h
    refine ⟨hname, fun a ha => ?_⟩
    obtain ⟨hlabel, hvalue⟩ := harguments.of_mem ha
    exact ⟨hlabel, fun n hn => hvalue.regular_of_occursIn hn⟩
  · exact ((Declaration.kept_of_parse h).of_occursIn hm).regular

/-- The text of a literal between its interpolations, a verbatim sum in a list, and the text of a type. -/
theorem regular_of_parse_nested :
    (∃ e, Expression.parse "f(\"a\\n\\(b)\", of: [-1_0: x + y ])" = .ok e ∧
      ∀ n : Expression, n.OccursIn e → n.Regular) ∧
    (∃ v, Invocation.parse "#m(a: g(1))" = .ok v ∧ isIdentifier v.name = true ∧
      ∀ a ∈ v.arguments, (∀ name ∈ a.label, isIdentifier name = true) ∧
        ∀ n : Expression, n.OccursIn a.value → n.Regular) ∧
    ∃ d, Declaration.parse "@m struct S \x7b var x: [Int] = 1 \x7d" = .ok d ∧
      ∀ m : Declaration, m.OccursIn d → m.Regular := by
  have hexpression : Expression.parse "f(\"a\\n\\(b)\", of: [-1_0: x + y ])" =
      .ok (.callOf "f" [
        .plain (.string [.text "a\\n", .interpolation (.identifier "b")]),
        ⟨some "of", .dictionary [⟨.integer "-1_0", .other "x + y"⟩]⟩]) := by
    decide +kernel
  have hinvocation : Invocation.parse "#m(a: g(1))" =
      .ok ⟨"m", [⟨some "a", .callOf "g" [.plain (.integer "1")]⟩]⟩ := by
    decide +kernel
  have hdeclaration : Declaration.parse "@m struct S \x7b var x: [Int] = 1 \x7d" =
      .ok (.body .struct "S" [] [⟨"m"⟩]
        [.binding { name := "x", typeText := some "[Int]", initializer := some (.integer "1") }]) := by
    decide +kernel
  exact ⟨⟨_, hexpression, (regular_of_parse _).1 _ hexpression⟩,
    ⟨_, hinvocation, (regular_of_parse _).2.1 _ hinvocation⟩,
    ⟨_, hdeclaration, (regular_of_parse _).2.2 _ hdeclaration⟩⟩

end SourceMacros

import SourceMacros.Proofs.Declaration.Verbatim
import SourceMacros.Proofs.Expression.Depth

/-! How deep a declaration nests. Every text that spells it spans as many levels,
`Declaration.Spelled.spans`. -/

namespace SourceMacros

open Text Reader Nesting

section Depth

/- How deep a verbatim text nests, and the text of a type. -/
variable (other type : String → Nat)

mutual

/-- A body is one level deeper than its members. -/
def Declaration.depth : Declaration → Nat
  | .binding b => max (b.typeText.elim 0 type) (b.initializer.elim 0 (·.depth other))
  | .body _ _ _ _ members => membersDepth members + 1

def membersDepth : List Declaration → Nat
  | [] => 0
  | d :: ds => max d.depth (membersDepth ds)

end

end Depth

theorem isQuiet_of_isMemberGap {c : Char} (hc : isMemberGap c = true) : isQuiet c = true := by
  rw [isMemberGap, Bool.or_eq_true, beq_iff_eq] at hc
  rcases hc with rfl | hc
  · decide
  · exact isQuiet_of_isBlank (isBlank_of_isGap hc)

theorem spans_words {words : List (List Char)} (hwords : ∀ word ∈ words, Spans false word 0)
    {s c : List Char} (h : WordsSpelled words s c) : Spans false s 0 := by
  induction words generalizing s with
  | nil =>
    obtain rfl : s = [] := h
    exact Spans.nil
  | cons word words ih =>
    obtain ⟨g, t, hg, rfl, -, ht⟩ := h
    obtain ⟨hword, hwords⟩ := List.forall_mem_cons.1 hwords
    exact (spans_gap hg).append (hword.append (ih hwords ht))

theorem spans_leadWords {attributes : List Attribute} {modifiers : List Modifier}
    {keyword name : String} (hattributes : ∀ a ∈ attributes, isIdentifier a.name = true)
    (hkeyword : isIdentifier keyword = true) (hname : isIdentifier name = true) {s c : List Char}
    (h : WordsSpelled (leadWords attributes modifiers ++ [keyword.toList, name.toList]) s c) :
    Spans false s 0 := by
  refine spans_words (fun word hword => ?_) h
  simp only [leadWords, List.mem_append, List.mem_map, List.mem_cons, List.not_mem_nil,
    or_false] at hword
  rcases hword with (⟨a, ha, rfl⟩ | ⟨m, -, rfl⟩) | rfl | rfl
  · have hsign : Spans false ['@'] 0 := Spans.quiet_single (by decide)
    exact hsign.append (spans_identifier (hattributes a ha))
  · exact spans_identifier (by cases m <;> decide)
  · exact spans_identifier hkeyword
  · exact spans_identifier hname

section Spans

variable {other type : String → Nat} {verbatim : String → List Char → List Char → Prop}

theorem spans_type {o : Option String} {s c : List Char} (h : TypeSpelled o s c)
    (htype : ∀ text ∈ o.toList, Spans false text.toList (type text)) :
    Spans false s (o.elim 0 type) := by
  cases o with
  | none =>
    obtain rfl : s = [] := h
    exact Spans.nil
  | some text =>
    obtain ⟨g, k, b, hg, hk, hb, rfl, -⟩ := h
    have hcolon : Spans false [':'] 0 := Spans.quiet_single (by decide)
    have hblanks : Spans false b 0 := Spans.quiet fun c hc => isQuiet_of_isBlank (hb c hc)
    have htext := htype text (by simp)
    simpa using (spans_gap hg).append (hcolon.append ((spans_gap (gap_of_spaces hk)).append
      (htext.append hblanks)))

theorem spans_initializer (hv : ∀ text u c, verbatim text u c → Spans false u (other text))
    {o : Option Expression} {s c : List Char} (h : InitializerSpelled verbatim o s c) :
    Spans false s (o.elim 0 (·.depth other)) := by
  cases o with
  | none =>
    obtain rfl : s = [] := h
    exact Spans.nil
  | some e =>
    obtain ⟨g, k, u, hg, hk, rfl, hu, -⟩ := h
    have hsign : Spans false ['='] 0 := Spans.quiet_single (by decide)
    have hvalue := Expression.Spelled.spans hv e hu
    simpa using (spans_gap hg).append (hsign.append ((spans_gap hk).append hvalue))

mutual

/-- Every text that spells a declaration spans as many levels as the declaration nests, if the texts of
its types do. -/
theorem Declaration.Spelled.spans (hv : ∀ text u c, verbatim text u c → Spans false u (other text)) :
    (d : Declaration) → {s c : List Char} →
    (∀ text ∈ d.types, Spans false text.toList (type text)) → d.Spelled verbatim s c →
    Spans false s (d.depth other type)
  | .binding b, s, c, htype, ⟨w, t, i, hs, hw, ht, hi, hattributes, hname⟩ => by
    have hwords := spans_leadWords hattributes (isIdentifier_keyword b) hname hw
    have hparts := (spans_type ht htype).append (spans_initializer hv hi)
    simpa [Declaration.depth, hs] using hwords.append hparts
  | .body kind name modifiers attributes members, s, c, htype,
      ⟨w, g, t, hg, hs, hw, ht, hattributes, hname⟩ => by
    obtain ⟨u, rfl, hu⟩ := MembersSpelled.spans hv members htype ht
    have hwords := spans_leadWords hattributes (by cases kind <;> decide) hname hw
    have hbody := hu.bracket (o := '{') (k := '}') (by decide) (by decide)
    simpa [Declaration.depth, hs] using hwords.append ((spans_gap hg).append hbody)

theorem MembersSpelled.spans (hv : ∀ text u c, verbatim text u c → Spans false u (other text)) :
    (ds : List Declaration) → {t c : List Char} →
    (∀ text ∈ memberTypes ds, Spans false text.toList (type text)) →
    MembersSpelled verbatim ds t c →
    ∃ s, t = s ++ ['}'] ∧ Spans false s (membersDepth other type ds)
  | [], t, c, _, ⟨m, hm, ht⟩ => ⟨m, ht, Spans.quiet fun c hc => isQuiet_of_isMemberGap (hm c hc)⟩
  | d :: ds, t, c, htype, ⟨m, u, t', hm, ht, _, hd, ht'⟩ => by
    obtain ⟨s, rfl, hs⟩ := MembersSpelled.spans hv ds
      (fun text h => htype text (List.mem_append_right _ h)) ht'
    have hgap : Spans false m 0 := Spans.quiet fun c hc => isQuiet_of_isMemberGap (hm c hc)
    have hmember := Declaration.Spelled.spans hv d
      (fun text h => htype text (List.mem_append_left _ h)) hd
    refine ⟨m ++ (u ++ s), by simp [ht], ?_⟩
    simpa [membersDepth] using hgap.append (hmember.append hs)

end

end Spans

end SourceMacros

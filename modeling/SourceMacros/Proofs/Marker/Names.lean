import Mathlib.Tactic.TFAE
import SourceMacros.Proofs.Config.Identifiers
import SourceMacros.Proofs.Declaration.RoundTrip
import SourceMacros.Proofs.Expression.Layout
import SourceMacros.Proofs.Marker.Expansion

/-! The names that macros may be given are those that a call and an attribute may have: a struct can be marked
with a name just where the reader of names takes it as a whole, and just where the call of that name is read,
`declares_tfae`. -/

namespace SourceMacros

open Text Reader Nesting

section Characters

/-- A letter without accents, or an underscore. -/
def IsNameStart (c : Char) : Prop := 'A' ≤ c ∧ c ≤ 'Z' ∨ 'a' ≤ c ∧ c ≤ 'z' ∨ c = '_'

/-- A character that names may begin with, and then such characters and digits. -/
def IsName (v : String) : Prop :=
  ∃ c t, v.toList = c :: t ∧ IsNameStart c ∧ ∀ k ∈ t, IsNameStart k ∨ '0' ≤ k ∧ k ≤ '9'

theorem startsIdentifier_iff (c : Char) : startsIdentifier c = true ↔ IsNameStart c := by
  have hupper : c.isUpper = true ↔ 'A' ≤ c ∧ c ≤ 'Z' := decide_eq_true_iff
  have hlower : c.isLower = true ↔ 'a' ≤ c ∧ c ≤ 'z' :=
    (Bool.and_eq_true _ _).to_iff.trans (and_congr decide_eq_true_iff decide_eq_true_iff)
  have halpha : c.isAlpha = (c.isUpper || c.isLower) := rfl
  rw [startsIdentifier, halpha, Bool.or_eq_true, Bool.or_eq_true, hupper, hlower, beq_iff_eq, or_assoc, IsNameStart]

theorem continuesIdentifier_iff (c : Char) :
    continuesIdentifier c = true ↔ IsNameStart c ∨ '0' ≤ c ∧ c ≤ '9' := by
  have hdigit : c.isDigit = true ↔ '0' ≤ c ∧ c ≤ '9' :=
    (Bool.and_eq_true _ _).to_iff.trans (and_congr decide_eq_true_iff decide_eq_true_iff)
  have halphanum : c.isAlphanum = (c.isAlpha || c.isDigit) := rfl
  rw [← startsIdentifier_iff, ← hdigit, continuesIdentifier, startsIdentifier, halphanum]
  simp only [Bool.or_eq_true, or_right_comm]

theorem isIdentifier_iff_isName {v : String} : isIdentifier v = true ↔ IsName v := by
  rw [isIdentifier, IsName]
  cases v.toList with
  | nil => simp [isIdentifierText]
  | cons c t =>
    simp only [isIdentifierText, Bool.and_eq_true, List.all_eq_true, startsIdentifier_iff,
      continuesIdentifier_iff]
    constructor
    · exact fun h => ⟨c, t, rfl, h⟩
    · rintro ⟨_, _, heq, h⟩
      obtain ⟨rfl, rfl⟩ := List.cons.inj heq
      exact h

end Characters

section Quoted

theorem stringUnit_of_continues {c : Char} (hc : continuesIdentifier c = true) (r : List Char) :
    Spelled.stringUnit .text (c :: r) = some ⟨[c], [c], r⟩ := by
  have hne : ∀ d, continuesIdentifier d = false → c ≠ d := by
    rintro d hd rfl
    rw [hc] at hd
    cases hd
  have hbackslash := hne '\\' (by decide)
  have hreturn := hne '\r' (by decide)
  unfold Spelled.stringUnit
  split <;> simp_all [Spelled.Repertoire.holds]

theorem quotedBody_of_continues {w : List Char} (hw : ∀ c ∈ w, continuesIdentifier c = true) {n : Nat}
    (hn : w.length < n) : Spelled.quotedBody .text n (w ++ ['"']) = some ⟨w ++ ['"'], w, []⟩ := by
  induction w generalizing n with
  | nil =>
    obtain ⟨m, rfl⟩ : ∃ m, n = m + 1 := ⟨n - 1, by simp at hn; omega⟩
    rfl
  | cons c w ih =>
    obtain ⟨m, rfl⟩ : ∃ m, n = m + 1 := ⟨n - 1, by simp at hn; omega⟩
    have hc := hw c (List.mem_cons_self ..)
    have hquote : c ≠ '"' := by
      rintro rfl
      exact absurd hc (by decide)
    have hrest := ih (fun k hk => hw k (List.mem_cons_of_mem _ hk)) (n := m) (by simpa using hn)
    rw [List.cons_append, Spelled.quotedBody]
    · rw [stringUnit_of_continues hc]
      simp [hrest]
    · intro r heq
      exact hquote (List.cons.inj heq).1

def nameLiteral (v : String) : String := "\"" ++ v ++ "\""

theorem stringValue?_nameLiteral {v : String} (h : isIdentifier v = true) :
    (Token.literal (nameLiteral v)).stringValue? = some v := by
  have hbody := quotedBody_of_continues (fun c hc => continuesIdentifier_of_mem h hc)
    (n := (v.toList ++ ['"']).length + 1) (by rw [List.length_append]; omega)
  have htext : (nameLiteral v).toList = '"' :: (v.toList ++ ['"']) := by simp [nameLiteral]
  rw [Token.stringValue?, htext, Spelled.string, Spelled.stringOf, hbody]
  simp [Spelled.after, Spelled.withSuffix]

end Quoted

section Names

variable {v : String}

/-- The reader of names takes the whole of a text just where it is an identifier. -/
theorem identifier_toList_iff : (∃ name, identifier v.toList = .done name []) ↔ isIdentifier v = true := by
  constructor
  · rintro ⟨name, h⟩
    obtain ⟨hname, hv, -⟩ := identifier_eq_done h
    rw [List.append_nil, String.toList_inj] at hv
    rwa [hv]
  · intro h
    have hread := identifier_append h (r := []) (by simp [EndsWord])
    rw [List.append_nil] at hread
    exact ⟨_, hread⟩

theorem parse_call_bare (h : isIdentifier v = true) : Invocation.parse ("#" ++ v) = .ok ⟨v, []⟩ := by
  have hlist : ("#" ++ v).toList = '#' :: v.toList := by simp
  have hspans := (show Spans false ['#'] 0 from Spans.quiet_single (by decide)).append (spans_identifier h)
  rw [List.singleton_append, ← hlist] at hspans
  have hsign : symbol '#' ('#' :: v.toList) = .done () v.toList :=
    symbol_gap Gap.nil (by decide) _
  have hname := identifier_append h (r := []) (by simp [EndsWord])
  rw [List.append_nil, String.ofList_toList] at hname
  refine (read_iff_levels hspans ⟨[], ?_, rfl⟩).1.2 (by decide)
  rw [hlist, invocation, bind_done hsign, bind_done hname,
    bind_done (optional_miss (argumentList_miss rfl expression))]
  rfl

theorem parse_call_empty (h : isIdentifier v = true) : Invocation.parse ("#" ++ v ++ "()") = .ok ⟨v, []⟩ := by
  have hshape : (Invocation.mk v []).WellFormed := ⟨h, trivial⟩
  have hwritten : ("#" ++ v ++ "()").toList = (Invocation.mk v []).written := by
    simp [Invocation.written, argumentsWritten, commaSeparated]
  refine (hshape.parse_layout ?_).1.2 ?_
  · rw [hwritten]
    exact hshape.layout_written
  · exact show 1 ≤ limit by decide

theorem isIdentifier_of_parse_call {source : String} {i : Invocation} (h : Invocation.parse source = .ok i) :
    isIdentifier i.name = true := by
  obtain ⟨-, r, hread, -⟩ := read_eq_ok.1 h
  obtain ⟨-, -, -, -, hname, -⟩ := invocation_eq_done hread
  exact hname

/-- A class without members that has the name as its one attribute, in one line. -/
theorem parse_attribute (h : isIdentifier v = true) : Declaration.parse ("@" ++ v ++ " class X \x7b\x7d") =
    .ok (.body .reference "X" [] [⟨v⟩] []) := by
  have hshape : (Declaration.body .reference "X" [] [⟨v⟩] []).WellFormed :=
    ⟨by simpa using h, by decide, trivial⟩
  have hwords : WordsSpelled ['@' :: v.toList, "class".toList, "X".toList]
      ('@' :: (v.toList ++ " class X".toList)) " \x7b\x7d".toList :=
    ⟨[], " class X".toList, Gap.nil, rfl, endsWord_cons (by decide),
      [' '], " X".toList, gap_space, rfl, endsWord_cons (by decide),
      [' '], [], gap_space, rfl, endsWord_cons (by decide), rfl⟩
  refine (hshape.parse_layout ?_).1.2 (show 1 ≤ limit by decide)
  refine ⟨("@" ++ v ++ " class X \x7b\x7d").toList, [], by simp, Gap.nil,
    '@' :: (v.toList ++ " class X".toList), [' '], ['}'], gap_space, by simp, hwords,
    ⟨[], by simp [MemberGap], rfl⟩, by simpa using h, by decide⟩

theorem isIdentifier_of_parse_attribute {source name : String} {kind : BodyKind} {modifiers : List Modifier}
    {members : List Declaration}
    (h : Declaration.parse source = .ok (.body kind name modifiers [⟨v⟩] members)) : isIdentifier v = true := by
  obtain ⟨-, r, hread, -⟩ := read_eq_ok.1 h
  obtain ⟨_, -, _, _, _, -, -, -, -, hattributes, -⟩ := declaration_eq_done hread
  exact hattributes ⟨v⟩ (List.mem_singleton_self _)

end Names

namespace Marker

variable {v : String}

/-- Some struct can be marked as a macro of the given name. -/
def Declares (v : String) : Prop :=
  ∃ args item out a, Arguments.ofTokens args = .ok a ∧ a.name.stringValue? = some v ∧ expand args item = .ok out

theorem isIdentifier_of_ofTokens {args : List Token} {a : Arguments} (h : Arguments.ofTokens args = .ok a)
    (hv : a.name.stringValue? = some v) : isIdentifier v = true := by
  obtain ⟨cs, es, -, hsay, hperm⟩ := ofTokens_eq_ok.1 h
  have hmem : Element.name a.name ∈ es := hperm.mem_iff.2 (List.mem_cons_self ..)
  obtain ⟨c, hsaid⟩ := hsay.exists_says hmem
  cases hsaid with
  | name htext hname =>
    obtain rfl := Option.some.inj (htext.symm.trans hv)
    exact hname

/-- A public struct can be marked with every identifier, keywords among them. -/
theorem declares_of_isIdentifier (h : isIdentifier v = true) : Declares v := by
  have hvalue := stringValue?_nameLiteral h
  have hsettle := Settle.both (say_pair hvalue h .peer) (.refl _)
  have hspells := spells_pair (.ofName (nameLiteral v)) (.ofRole .peer)
  have hitem := Item.ofTokens_unitStruct (publicStruct "A" (by decide) false)
  exact ⟨_, _, _, _, ofTokens_of_settle hspells hsettle, hvalue,
    expand_of_outcome hspells (.marked hsettle (.unit hitem))⟩

theorem declares_iff : Declares v ↔ isIdentifier v = true := by
  constructor
  · rintro ⟨_, _, _, a, h, hv, -⟩
    exact isIdentifier_of_ofTokens h hv
  · exact declares_of_isIdentifier

theorem nameElement_of_value {t : Token} (ht : t.stringValue? = some v) (rest : List Token) :
    nameElement (t :: rest) = if isIdentifier v then .ok (.name t, rest) else .error .invalidName := by
  simp [nameElement, ht]

end Marker

/-- The struct marked, the configuration and the reader of names take the same names, and these are the names
of macros that can be called and attached. -/
theorem declares_tfae (v : String) :
    (∀ (t : Token) (rest : List Token), t.stringValue? = some v → Marker.nameElement (t :: rest) =
      if isIdentifier v then .ok (.name t, rest) else .error .invalidName) ∧
    List.TFAE [Marker.Declares v, isIdentifier v = true, IsName v,
      ∀ field, Config.requireIdentifier field v = .ok (),
      ∃ name, identifier v.toList = .done name [],
      Invocation.parse ("#" ++ v) = .ok ⟨v, []⟩,
      Invocation.parse ("#" ++ v ++ "()") = .ok ⟨v, []⟩,
      ∃ i, Invocation.parse ("#" ++ v ++ "()") = .ok i ∧ i.name = v,
      Declaration.parse ("@" ++ v ++ " class X \x7b\x7d") = .ok (.body .reference "X" [] [⟨v⟩] [])] := by
  refine ⟨fun t rest ht => Marker.nameElement_of_value ht rest, ?_⟩
  tfae_have 1 ↔ 2 := Marker.declares_iff
  tfae_have 2 ↔ 3 := isIdentifier_iff_isName
  tfae_have 2 ↔ 4 := ⟨fun h _ => Config.requireIdentifier_eq_ok.2 h,
    fun h => Config.requireIdentifier_eq_ok.1 (h "")⟩
  tfae_have 5 ↔ 2 := identifier_toList_iff
  tfae_have 2 → 6 := parse_call_bare
  tfae_have 6 → 2 := fun h => isIdentifier_of_parse_call h
  tfae_have 2 → 7 := parse_call_empty
  tfae_have 7 → 8 := fun h => ⟨_, h, rfl⟩
  tfae_have 8 → 2 := by
    rintro ⟨i, h, rfl⟩
    exact isIdentifier_of_parse_call h
  tfae_have 2 → 9 := parse_attribute
  tfae_have 9 → 2 := isIdentifier_of_parse_attribute
  tfae_finish

/-- A name that is a keyword of declarations, and one that is a modifier, are names like others. -/
theorem declares_tfae_class :
    Marker.nameElement [.literal "\"class\""] = .ok (.name (.literal "\"class\""), []) ∧
    Marker.nameElement [.literal "\"a-b\""] = .error .invalidName ∧
    Invocation.parse "#class()" = .ok ⟨"class", []⟩ ∧
    Declaration.parse "@static class X \x7b\x7d" = .ok (.body .reference "X" [] [⟨"static"⟩] []) ∧
    ¬ Marker.Declares "a-b" ∧ ¬ Marker.Declares "" ∧ ¬ Marker.Declares "é" := by
  obtain ⟨hclass, hclassCalled⟩ := declares_tfae "class"
  have hstatic := (declares_tfae "static").2
  have hrefused : ∀ w, isIdentifier w = false → ¬ Marker.Declares w := by
    intro w hw h
    have hname : isIdentifier w = true := ((declares_tfae w).2.out 0 1).1 h
    rw [hname] at hw
    cases hw
  refine ⟨hclass _ _ (by cbv), (declares_tfae "a-b").1 _ _ (by decide +kernel),
    (hclassCalled.out 1 6).1 (by decide), (hstatic.out 1 8).1 (by decide), hrefused _ (by decide),
    hrefused _ (by decide), hrefused _ (by decide)⟩

end SourceMacros

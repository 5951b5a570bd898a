import SourceMacros.Proofs.Declaration.Depth
import SourceMacros.Proofs.Expression.Rendered

/-! For the scan, what is written for a declaration is the same as the text it was read off,
`Declaration.Spelled.same`. -/

namespace SourceMacros

open Text Reader Nesting

theorem isIdle_of_isMemberGap {c : Char} (hc : isMemberGap c = true) : isIdle c = true := by
  rw [isMemberGap, Bool.or_eq_true, beq_iff_eq] at hc
  rcases hc with rfl | hc
  · decide
  · exact isIdle_of_isBlank (isBlank_of_isGap hc)

theorem idle_memberGap {m : List Char} (hm : MemberGap m) : Idle m :=
  fun c hc => isIdle_of_isMemberGap (hm c hc)

theorem idle_flatMap {words : List (List Char)} (h : ∀ word ∈ words, Idle word) :
    Idle (words.flatMap fun word => word ++ [' ']) := by
  intro c hc
  obtain ⟨word, hword, hc⟩ := List.mem_flatMap.1 hc
  exact (h word hword).append (idle_single (by decide)) c hc

theorem idle_words {words : List (List Char)} (hwords : ∀ word ∈ words, Idle word) {s c : List Char}
    (h : WordsSpelled words s c) : Idle s := by
  induction words generalizing s with
  | nil =>
    obtain rfl : s = [] := h
    exact Idle.nil
  | cons word words ih =>
    obtain ⟨g, t, hg, rfl, -, ht⟩ := h
    obtain ⟨hword, hwords⟩ := List.forall_mem_cons.1 hwords
    exact (idle_gap hg).append (hword.append (ih hwords ht))

section Words

variable {attributes : List Attribute} {modifiers : List Modifier} {keyword name : String}

theorem idle_leadWords (hattributes : ∀ a ∈ attributes, isIdentifier a.name = true)
    (hkeyword : isIdentifier keyword = true) (hname : isIdentifier name = true) :
    ∀ word ∈ leadWords attributes modifiers ++ [keyword.toList, name.toList], Idle word := by
  intro word hword
  simp only [leadWords, List.mem_append, List.mem_map, List.mem_cons, List.not_mem_nil,
    or_false] at hword
  rcases hword with (⟨a, ha, rfl⟩ | ⟨m, -, rfl⟩) | rfl | rfl
  · exact Idle.cons (by decide) (idle_identifier (hattributes a ha))
  · exact idle_identifier (by cases m <;> decide)
  · exact idle_identifier hkeyword
  · exact idle_identifier hname

/-- The words of a declaration are idle, and so are they as they are written. -/
theorem meets_words (hattributes : ∀ a ∈ attributes, isIdentifier a.name = true)
    (hkeyword : isIdentifier keyword = true) (hname : isIdentifier name = true) {w c : List Char}
    (h : WordsSpelled (leadWords attributes modifiers ++ [keyword.toList, name.toList]) w c)
    {q q' : Scan} (hq : Alike q q') :
    Meets q w q' ((leadWords attributes modifiers ++ [keyword.toList]).flatMap
      (fun word => word ++ [' ']) ++ name.toList) ∧ (q.run w).escaped = false := by
  have hidle : ∀ word ∈ leadWords attributes modifiers ++ [keyword.toList, name.toList], Idle word :=
    idle_leadWords hattributes hkeyword hname
  have hw := idle_words hidle h
  have hne : w ≠ [] := by
    obtain ⟨g, k, v, -, rfl, -⟩ := exists_first hkeyword h
    simp
  have hwritten : Idle ((leadWords attributes modifiers ++ [keyword.toList]).flatMap
      (fun word => word ++ [' ']) ++ name.toList) := by
    refine (idle_flatMap fun word hword => hidle word ?_).append (hidle _ (by simp))
    rcases List.mem_append.1 hword with hword | hword <;> simp_all
  refine ⟨hq.meets_idle hw hwritten hne (by simp), hw.not_escaped_run fun hnil => absurd hnil hne⟩

end Words

section Parts

variable {q q' : Scan} {s c : List Char}

theorem same_type {o : Option String} (h : TypeSpelled o s c) (hq : q.escaped = false) :
    Same q s q (typeWritten o) := by
  have hsane := Scan.sane_of_not_escaped hq
  cases o with
  | none =>
    obtain rfl : s = [] := h
    exact (Alike.refl hsane).same Idle.nil Idle.nil
  | some text =>
    obtain ⟨g, k, b, hg, hk, hb, rfl, -⟩ := h
    have htext := (Meets.refl q text.toList).same hsane
    have hback := htext.append (htext.run.same (idle_blank hb) Idle.nil)
    have hcolon : Idle (g ++ ':' :: k) :=
      (idle_gap hg).append (Idle.cons (by decide) (idle_gap (gap_of_spaces hk)))
    have hall := hback.idle hq hcolon (Idle.cons (c := ':') (by decide) (idle_single (c := ' ') (by decide)))
    simpa [typeWritten] using hall

theorem same_initializer {o : Option Expression} (h : InitializerSpelled Verbatim o s c)
    (hq : Alike q q') : Same q s q' (initializerWritten o) := by
  cases o with
  | none =>
    obtain rfl : s = [] := h
    exact hq.same Idle.nil Idle.nil
  | some e =>
    obtain ⟨g, k, u, hg, hk, rfl, hu, -⟩ := h
    have hsign : Idle (g ++ '=' :: k) := (idle_gap hg).append (Idle.cons (by decide) (idle_gap hk))
    have hwritten : Idle [' ', '=', ' '] :=
      Idle.cons (by decide) (Idle.cons (by decide) (idle_single (by decide)))
    have hfront := hq.meets_idle hsign hwritten (by simp) (by simp)
    have hvalue := Expression.Spelled.same e hu (hsign.not_escaped_run (q := q) (by simp))
    simpa [initializerWritten] using hfront.then_same hvalue

end Parts

mutual

/-- What was taken and what is written open as much for the scan. -/
theorem Declaration.Spelled.same : (d : Declaration) → (depth : Nat) → {s c : List Char} →
    d.Spelled Verbatim s c → {q q' : Scan} → Alike q q' → Same q s q' (d.writtenAt depth)
  | .binding b, _, s, c, ⟨w, t, i, hs, hw, ht, hi, hattributes, hname⟩, q, q', hq => by
    obtain ⟨hwords, hback⟩ := meets_words hattributes (isIdentifier_keyword b) hname hw hq
    have htype := same_type ht hback
    have hparts := htype.append (same_initializer hi htype.run)
    rw [hs, Declaration.writtenAt, Binding.written_eq]
    exact hwords.then_same hparts
  | .body kind name modifiers attributes members, depth, s, c,
      ⟨w, g, t, hg, hs, hw, ht, hattributes, hname⟩, q, q', hq => by
    obtain ⟨hwords, hback⟩ := meets_words hattributes (by cases kind <;> decide) hname hw hq
    have hgap := (Alike.refl (Scan.sane_of_not_escaped hback)).same (idle_gap hg)
      (idle_single (c := ' ') (by decide))
    have hopen := hgap.meets (hgap.run.meets (c := '{') (by decide))
    have hmembers := MembersSpelled.meets members (depth + 1) depth ht
      (Alike.refl (Scan.sane_run (Scan.sane_of_not_escaped hback) (g ++ ['{'])))
    have hall := hwords.append (hopen.append hmembers)
    have hwritten : (Declaration.body kind name modifiers attributes members).writtenAt depth =
        (leadWords attributes modifiers ++ [kind.keyword.toList]).flatMap (fun word => word ++ [' ']) ++
          name.toList ++ ([' '] ++ ['{'] ++ ('\n' :: (membersWrittenAt (depth + 1) members ++
            (indentWritten depth ++ ['}'])))) := by
      simp [Declaration.writtenAt, leadWritten_eq]
    rw [hs, hwritten, List.append_cons]
    exact hall.same hq.sane

theorem MembersSpelled.meets : (ds : List Declaration) → (depth k : Nat) → {t c : List Char} →
    MembersSpelled Verbatim ds t c → {q q' : Scan} → Alike q q' →
    Meets q t q' ('\n' :: (membersWrittenAt depth ds ++ (indentWritten k ++ ['}'])))
  | [], depth, k, t, c, ⟨m, hm, ht⟩, q, q', hq => by
    have hgap := hq.same (idle_memberGap hm) (idle_memberGap (memberGap_indent k))
    have hall := hgap.meets (hgap.run.meets (c := '}') (by decide))
    simpa [ht, membersWrittenAt] using hall
  | d :: ds, depth, k, t, c, ⟨m, u, t', hm, ht, _, hd, ht'⟩, q, q', hq => by
    have hgap := hq.same (idle_memberGap hm) (idle_memberGap (memberGap_indent depth))
    have hmember := Declaration.Spelled.same d depth hd hgap.run
    have hrest := MembersSpelled.meets ds depth k ht' hmember.run
    have hall := hgap.meets (hmember.meets hrest)
    simpa [ht, membersWrittenAt] using hall

end

end SourceMacros

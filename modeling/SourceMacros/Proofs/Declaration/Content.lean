import SourceMacros.Proofs.Declaration.Spelled
import SourceMacros.Proofs.Expression.Content

/-! A text that spells a declaration has the content of the text that is written for it,
`Declaration.Spelled.content_eq`. -/

namespace SourceMacros

open Text Reader

theorem content_memberGap {m : List Char} (hm : MemberGap m) : content m = [] := by
  refine content_eq_nil fun c hc => ?_
  have hgap := hm c hc
  rw [isMemberGap, Bool.or_eq_true, beq_iff_eq] at hgap
  rcases hgap with rfl | hgap
  · decide
  · simp [isContent, isBlank_of_isGap hgap]

theorem content_words {words : List (List Char)} {s c : List Char} (h : WordsSpelled words s c) :
    content s = content words.flatten := by
  induction words generalizing s with
  | nil =>
    obtain rfl : s = [] := h
    rfl
  | cons word words ih =>
    obtain ⟨g, t, hg, rfl, -, ht⟩ := h
    rw [List.flatten_cons, content_append, content_append, content_append, content_gap hg, ih ht,
      List.nil_append]

theorem content_flatMap (words : List (List Char)) :
    content (words.flatMap fun word => word ++ [' ']) = content words.flatten := by
  induction words with
  | nil => rfl
  | cons word words ih =>
    rw [List.flatMap_cons, List.flatten_cons, content_append, content_append, content_append, ih,
      content_cons_of_not (by decide), content_nil, List.append_nil]

theorem content_leadWords {lead : List (List Char)} {keyword name w c : List Char}
    (h : WordsSpelled (lead ++ [keyword, name]) w c) :
    content w = content ((lead ++ [keyword]).flatMap (fun word => word ++ [' ']) ++ name) := by
  rw [content_words h, content_append, content_flatMap, ← content_append]
  simp

theorem content_type {o : Option String} {s c : List Char} (h : TypeSpelled o s c) :
    content s = content (typeWritten o) := by
  cases o with
  | none =>
    obtain rfl : s = [] := h
    rfl
  | some text =>
    obtain ⟨g, k, b, hg, hk, hb, rfl, -⟩ := h
    simp only [typeWritten, content_append, content_gap hg, content_gap (gap_of_spaces hk),
      content_blank hb, content_cons (c := ':') (by decide),
      content_cons_of_not (c := ' ') (by decide), List.nil_append, List.append_nil]

section Spelled

variable {verbatim : String → List Char → List Char → Prop}

theorem content_initializer (hv : ∀ text u c, verbatim text u c → content u = content text.toList)
    {o : Option Expression} {s c : List Char} (h : InitializerSpelled verbatim o s c) :
    content s = content (initializerWritten o) := by
  cases o with
  | none =>
    obtain rfl : s = [] := h
    rfl
  | some e =>
    obtain ⟨g, k, u, hg, hk, rfl, hu, -⟩ := h
    simp only [initializerWritten, content_append, content_gap hg, content_gap hk,
      content_cons (c := '=') (by decide), content_cons_of_not (c := ' ') (by decide),
      Expression.Spelled.content_eq hv e hu, List.nil_append]

mutual

/-- What is taken has the content of what is written, if this is so for the verbatim texts. -/
theorem Declaration.Spelled.content_eq
    (hv : ∀ text u c, verbatim text u c → content u = content text.toList) :
    (d : Declaration) → (depth : Nat) → {s c : List Char} → d.Spelled verbatim s c →
    content s = content (d.writtenAt depth)
  | .binding b, _, s, c, ⟨w, t, i, hs, hw, ht, hi, _, _⟩ => by
    rw [hs, Declaration.writtenAt, Binding.written_eq, content_append, content_append, content_append,
      content_append (typeWritten b.typeText), content_leadWords hw, content_type ht,
      content_initializer hv hi]
  | .body kind name modifiers attributes members, depth, s, c, ⟨w, g, t, hg, hs, hw, ht, _, _⟩ => by
    have hmembers := MembersSpelled.content_eq hv members (depth + 1) ht
    have hwritten : (Declaration.body kind name modifiers attributes members).writtenAt depth =
        ((leadWords attributes modifiers ++ [kind.keyword.toList]).flatMap (fun word => word ++ [' ']) ++
          name.toList) ++ ' ' :: '{' :: '\n' :: (membersWrittenAt (depth + 1) members ++
            (indentWritten depth ++ ['}'])) := by
      simp [Declaration.writtenAt, leadWritten_eq]
    simp only [hs, hwritten, content_append, content_leadWords hw, content_gap hg, hmembers,
      content_memberGap (memberGap_replicate depth), content_cons (c := '{') (by decide),
      content_cons_of_not (c := ' ') (by decide), content_cons_of_not (c := '\n') (by decide),
      List.nil_append]

theorem MembersSpelled.content_eq
    (hv : ∀ text u c, verbatim text u c → content u = content text.toList) :
    (ds : List Declaration) → (depth : Nat) → {t c : List Char} → MembersSpelled verbatim ds t c →
    content t = content (membersWrittenAt depth ds ++ ['}'])
  | [], _, t, c, ⟨m, hm, ht⟩ => by
    rw [ht, content_append, content_memberGap hm, membersWrittenAt]
    rfl
  | d :: ds, depth, t, c, ⟨m, u, t', hm, ht, _, hd, ht'⟩ => by
    have hmember := Declaration.Spelled.content_eq hv d depth hd
    have hrest := MembersSpelled.content_eq hv ds depth ht'
    simp only [ht, membersWrittenAt, content_append, content_memberGap hm, hmember, hrest,
      content_memberGap (memberGap_replicate depth), content_cons_of_not (c := '\n') (by decide),
      List.append_assoc, List.cons_append, List.nil_append]

end

end Spelled

end SourceMacros

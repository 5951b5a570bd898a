import SourceMacros.Proofs.Declaration.Parted
import SourceMacros.Proofs.Expression.Aligned

/-! Where the text that is written for a declaration is read as the same declaration, its parts are read
where they are written. So no known shape takes a verbatim text there, and no type has an empty text,
`Declaration.Spelled.aligned`. -/

namespace SourceMacros

open Text Reader

theorem aligned_of_words {words : List (List Char)} {last : List Char}
    (hwords : ∀ word ∈ words ++ [last], ∃ k t, word = k :: t ∧ isGap k = false) {s c d g₀ : List Char}
    (h : WordsSpelled (words ++ [last]) s c) (hg₀ : Gap g₀)
    (heq : g₀ ++ ((words.flatMap fun word => word ++ [' ']) ++ last ++ d) = s ++ c) : d = c := by
  induction words generalizing s g₀ with
  | nil =>
    obtain ⟨g, t, hg, rfl, -, rfl⟩ := h
    obtain ⟨k, w, rfl, hk⟩ := hwords last (by simp)
    obtain ⟨-, -, hrest⟩ := span_cancel hg₀ hg hk hk (by simpa using heq)
    exact List.append_cancel_left hrest
  | cons word words ih =>
    obtain ⟨g, t, hg, rfl, -, ht⟩ := h
    obtain ⟨⟨k, w, rfl, hk⟩, hothers⟩ := List.forall_mem_cons.1 hwords
    have hword : g₀ ++ k :: (w ++ ([' '] ++ ((words.flatMap fun word => word ++ [' ']) ++ last ++ d))) =
        g ++ k :: (w ++ (t ++ c)) := by simpa using heq
    obtain ⟨-, -, hrest⟩ := span_cancel hg₀ hg hk hk hword
    exact ih hothers ht gap_space (List.append_cancel_left hrest)

theorem aligned_of_lead {attributes : List Attribute} {modifiers : List Modifier}
    {keyword name : String} (hkeyword : isIdentifier keyword = true) (hname : isIdentifier name = true)
    {w c d : List Char}
    (h : WordsSpelled (leadWords attributes modifiers ++ [keyword.toList, name.toList]) w c)
    (heq : (leadWords attributes modifiers ++ [keyword.toList]).flatMap (fun word => word ++ [' ']) ++
      (name.toList ++ d) = w ++ c) : d = c := by
  have hwords : ∀ word ∈ (leadWords attributes modifiers ++ [keyword.toList]) ++ [name.toList],
      ∃ k t, word = k :: t ∧ isGap k = false := by
    intro word hword
    rcases List.mem_append.1 hword with hword | hword
    · obtain ⟨k, t, hk, hstart⟩ := startsWord_of_mem hkeyword hword
      exact ⟨k, t, hk, isGap_of_isMemberGap (isMemberGap_of_startsWord hstart)⟩
    · rw [List.mem_singleton.1 hword]
      exact isGap_of_isIdentifier hname
  have hspelled : WordsSpelled ((leadWords attributes modifiers ++ [keyword.toList]) ++ [name.toList])
      w c := by simpa using h
  exact aligned_of_words hwords hspelled Gap.nil (by simpa using heq)

section Parts

variable {c k : List Char}

theorem aligned_of_initializer {o : Option Expression} {i b : List Char} (hk : EndsLine k)
    (he : ∀ e ∈ o, e.Shaped Kept) (hi : InitializerSpelled Verbatim o i c) (hb : Blank b)
    (hin : ∀ x ∈ b, inType x = true)
    (hp : ∀ p ∈ o.elim [] (fun e => e.verbatims k), Parted p)
    (heq : initializerWritten o ++ k = b ++ (i ++ c)) :
    c = k ∧ ∀ p ∈ o.elim [] (fun e => e.verbatims k), Missed p := by
  cases o with
  | none =>
    obtain rfl : i = [] := hi
    have hnil : b = [] := by
      cases b with
      | nil => rfl
      | cons x b =>
        have hline : k = x :: (b ++ c) := heq
        have hx := hin x (by simp)
        rw [hk x (by simp [hline])] at hx
        exact absurd hx (by decide)
    rw [hnil] at heq
    exact ⟨heq.symm, by simp⟩
  | some e =>
    obtain ⟨g, h, u, hg, hh, rfl, hu, -⟩ := hi
    have hblank : ∀ x ∈ b ++ g, isBlank x = true := by
      intro x hx
      rcases List.mem_append.1 hx with hx | hx
      · exact hb x hx
      · exact isBlank_of_isGap (hg x hx)
    have hsign : [' '] ++ '=' :: (' ' :: (e.written ++ k)) = (b ++ g) ++ '=' :: (h ++ (u ++ c)) := by
      simpa [initializerWritten] using heq
    have hspace : ∀ x ∈ [' '], isBlank x = true := fun x hx => isBlank_of_isGap (gap_space x hx)
    obtain ⟨-, -, hvalue⟩ := span_cancel hspace hblank (by decide) (by decide) hsign
    have hfront := Expression.Spelled.front (he e rfl) hu gap_space hh hvalue
    exact Expression.Spelled.aligned e (he e rfl) hu hp hfront

/-- A type that is read where it is written has a text, and blanks after it at most. -/
theorem aligned_of_type {o : Option String} {o' : Option Expression} {t i : List Char}
    (hk : EndsLine k) (ht : TypeSpelled o t (i ++ c))
    (heq : typeWritten o ++ (initializerWritten o' ++ k) = t ++ (i ++ c)) :
    (∀ text ∈ o, text.toList ≠ []) ∧ ∃ b, Blank b ∧ (∀ x ∈ b, inType x = true) ∧
      initializerWritten o' ++ k = b ++ (i ++ c) := by
  cases o with
  | none =>
    obtain rfl : t = [] := ht
    exact ⟨by simp, [], Blank.nil, by simp, heq⟩
  | some text =>
    obtain ⟨g, h, b, hg, hh, hb, rfl, hne, hin, hhead, -, -⟩ := ht
    have hcolon : [] ++ ':' :: (' ' :: (text.toList ++ (initializerWritten o' ++ k))) =
        g ++ ':' :: (h ++ (text.toList ++ (b ++ (i ++ c)))) := by
      simpa [typeWritten] using heq
    obtain ⟨-, -, hrest⟩ := span_cancel Gap.nil hg (by decide) (by decide) hcolon
    cases htext : text.toList with
    | cons x s =>
      have hx : isSpace x = false := hhead x (by simp [htext])
      rw [htext] at hrest
      obtain ⟨-, -, hback⟩ := span_cancel (u := [' ']) (by simp [isSpace]) hh hx hx hrest
      refine ⟨fun text' htext' => ?_, b, hb, fun y hy => hin y (List.mem_append_right _ hy),
        List.append_cancel_left hback⟩
      rw [← Option.some.inj htext', htext]
      exact List.cons_ne_nil x s
    | nil =>
      exfalso
      rw [htext] at hne hhead hin hrest
      obtain ⟨x, b', rfl⟩ := List.exists_cons_of_ne_nil (by simpa using hne)
      have hx : isSpace x = false := hhead x rfl
      have hxin : inType x = true := hin x (by simp)
      cases o' with
      | none =>
        have hline : [' '] ++ k = h ++ x :: (b' ++ (i ++ c)) := hrest
        cases k with
        | nil =>
          have hdrop := congrArg (List.dropWhile isSpace) hline
          rw [List.dropWhile_append_of_pos hh, dropWhile_cons_of_neg hx] at hdrop
          cases hdrop
        | cons y k =>
          obtain rfl : y = '\n' := hk y rfl
          obtain ⟨-, hy, -⟩ := span_cancel (p := isSpace) (by simp [isSpace]) hh (by decide) hx hline
          rw [← hy] at hxin
          exact absurd hxin (by decide)
      | some e =>
        have hsign : [' ', ' '] ++ '=' :: (' ' :: (e.written ++ k)) = h ++ x :: (b' ++ (i ++ c)) := by
          simpa [initializerWritten] using hrest
        obtain ⟨-, hy, -⟩ := span_cancel (p := isSpace) (by simp [isSpace]) hh (by decide) hx hsign
        rw [← hy] at hxin
        exact absurd hxin (by decide)

end Parts

section Aligned

mutual

/-- Where what is written is what was taken, the verbatim texts are missed where they are written, and no
type has an empty text. -/
theorem Declaration.Spelled.aligned : (d : Declaration) → (depth : Nat) → {s c k : List Char} →
    d.Shaped Kept KeptType → d.Spelled Verbatim s c → EndsLine k →
    (∀ p ∈ d.verbatimsAt depth k, Parted p) → d.writtenAt depth ++ k = s ++ c →
    c = k ∧ (∀ p ∈ d.verbatimsAt depth k, Missed p) ∧ ∀ text ∈ d.types, text.toList ≠ []
  | .binding b, _, s, c, k, ⟨_, _, _, he⟩, ⟨w, t, i, hs, hw, ht, hi, _, hname⟩, hk, hp, heq => by
    have hverbatims : ∀ depth, (Declaration.binding b).verbatimsAt depth k =
        b.initializer.elim [] (fun e => e.verbatims k) := by
      intro depth
      cases hinit : b.initializer <;> simp [Declaration.verbatimsAt, hinit]
    rw [hverbatims] at hp ⊢
    have hparts : typeWritten b.typeText ++ (initializerWritten b.initializer ++ k) =
        t ++ (i ++ c) := by
      refine aligned_of_lead (isIdentifier_keyword b) hname hw ?_
      rw [Declaration.writtenAt, Binding.written_eq, hs] at heq
      simpa using heq
    obtain ⟨htypes, x, hx, hin, hrest⟩ := aligned_of_type hk ht hparts
    obtain ⟨hc, hmissed⟩ := aligned_of_initializer hk he hi hx hin hp hrest
    exact ⟨hc, hmissed, fun text htext => htypes text (by simpa [Declaration.types] using htext)⟩
  | .body kind name modifiers attributes members, depth, s, c, k, ⟨_, _, he⟩,
      ⟨w, g, t, hg, hs, hw, ht, _, hname⟩, hk, hp, heq => by
    have hbody : [' '] ++ '{' :: (['\n'] ++ (membersWrittenAt (depth + 1) members ++
        (indentWritten depth ++ '}' :: k))) = g ++ '{' :: (t ++ c) := by
      refine aligned_of_lead (by cases kind <;> decide) hname hw ?_
      rw [Declaration.writtenAt, leadWritten_eq, hs] at heq
      simpa using heq
    obtain ⟨-, -, hrest⟩ := span_cancel gap_space hg (by decide) (by decide) hbody
    exact MembersSpelled.aligned members (depth + 1) depth he ht hp memberGap_line hrest

theorem MembersSpelled.aligned : (ds : List Declaration) → (depth n : Nat) →
    {t c k m₀ : List Char} → MembersShaped Kept KeptType ds → MembersSpelled Verbatim ds t c →
    (∀ p ∈ memberVerbatims depth ds (indentWritten n ++ '}' :: k), Parted p) → MemberGap m₀ →
    m₀ ++ (membersWrittenAt depth ds ++ (indentWritten n ++ '}' :: k)) = t ++ c →
    c = k ∧ (∀ p ∈ memberVerbatims depth ds (indentWritten n ++ '}' :: k), Missed p) ∧
      ∀ text ∈ memberTypes ds, text.toList ≠ []
  | [], depth, n, t, c, k, m₀, _, ⟨m, hm, ht⟩, _, hm₀, heq => by
    have hbrace : (m₀ ++ indentWritten n) ++ '}' :: k = m ++ '}' :: c := by
      rw [ht] at heq
      simpa [membersWrittenAt] using heq
    have hindent := hm₀.append (memberGap_replicate n)
    obtain ⟨-, -, hrest⟩ := span_cancel hindent hm (by decide) (by decide) hbrace
    exact ⟨hrest.symm, by simp [memberVerbatims], by simp [memberTypes]⟩
  | d :: ds, depth, n, t, c, k, m₀, ⟨hd, hds⟩, ⟨m, u, t', hm, ht, hu, hspelled, ht'⟩, hp, hm₀, heq => by
    obtain ⟨x, v, hwritten, hx⟩ := d.head_written depth
    obtain ⟨y, w, rfl⟩ : ∃ y w, u = y :: w := by
      obtain ⟨g, y, w, -, rfl, -⟩ := hspelled.first
      cases g with
      | nil => exact ⟨y, w, rfl⟩
      | cons z g => exact ⟨z, g ++ y :: w, rfl⟩
    have hmember : (m₀ ++ indentWritten depth) ++ x :: (v ++ '\n' :: (membersWrittenAt depth ds ++
        (indentWritten n ++ '}' :: k))) = m ++ y :: (w ++ (t' ++ c)) := by
      rw [ht] at heq
      simpa [membersWrittenAt, hwritten] using heq
    obtain ⟨-, hfirst, hrest⟩ := span_cancel (hm₀.append (memberGap_replicate depth)) hm
      (isMemberGap_of_startsWord hx) (hu y rfl) hmember
    have hdeclared : d.writtenAt depth ++ '\n' :: (membersWrittenAt depth ds ++
        (indentWritten n ++ '}' :: k)) = y :: w ++ (t' ++ c) := by
      rw [hwritten, hfirst, List.cons_append, hrest, List.cons_append]
    have hline : EndsLine ('\n' :: (membersWrittenAt depth ds ++ (indentWritten n ++ '}' :: k))) :=
      fun z hz => (Option.some.inj hz).symm
    obtain ⟨hback, hmissed, htypes⟩ := Declaration.Spelled.aligned d depth hd hspelled hline
      (fun p h => hp p (List.mem_append_left _ h)) hdeclared
    obtain ⟨hc, hmissed', htypes'⟩ := MembersSpelled.aligned ds depth n hds ht'
      (fun p h => hp p (List.mem_append_right _ h)) memberGap_line hback.symm
    refine ⟨hc, fun p h => ?_, fun text h => ?_⟩
    · rcases List.mem_append.1 h with h | h
      · exact hmissed p h
      · exact hmissed' p h
    · rcases List.mem_append.1 h with h | h
      · exact htypes text h
      · exact htypes' text h

end

end Aligned

end SourceMacros

import SourceMacros.Proofs.Declaration.Spelled
import SourceMacros.Proofs.Expression.Reading
import SourceMacros.Proofs.Reader.Levels

/-! Whatever is read as a declaration is spelled by the text that was taken, `declaration_eq_done`. -/

namespace SourceMacros.Reader

open Text

variable {α : Type}

theorem name_eq_done {s r : List Char} {n : String} (h : name s = .done n r) :
    isIdentifier n = true ∧ ∃ g, Gap g ∧ s = g ++ (n.toList ++ r) ∧ EndsWord r := by
  obtain ⟨g, hg, hs⟩ := exists_gap s
  obtain ⟨hn, hdrop, hends⟩ :=
    identifier_eq_done (show identifier (s.dropWhile isGap) = .done n r from h)
  exact ⟨hn, g, hg, by rw [hs, hdrop], hends⟩

theorem keyword_eq_done {word : String} {s r : List Char} {a : Unit}
    (h : keyword word s = .done a r) : ∃ g, Gap g ∧ s = g ++ (word.toList ++ r) ∧ EndsWord r := by
  simp only [keyword] at h
  split at h
  case h_1 found t ht =>
    split at h
    case isTrue hword =>
      obtain ⟨-, rfl⟩ := Outcome.done.inj h
      exact hword ▸ (name_eq_done ht).2
    case isFalse => cases h
  all_goals cases h

theorem many_words {p : Reader α} {word : α → List Char} {P : α → Prop}
    (hp : ∀ s a r, p s = .done a r → P a ∧ ∃ g, Gap g ∧ s = g ++ (word a ++ r) ∧ EndsWord r)
    {s r : List Char} {as : List α} (h : many p s = .done as r) :
    (∀ a ∈ as, P a) ∧ ∃ w, s = w ++ r ∧ WordsSpelled (as.map word) w r := by
  induction as generalizing s with
  | nil =>
    obtain ⟨rfl, -⟩ := many_eq_nil h
    exact ⟨by simp, [], rfl, rfl⟩
  | cons a as ih =>
    obtain ⟨t, ha, -, hmore⟩ := many_eq_cons h
    obtain ⟨hPa, g, hg, rfl, hends⟩ := hp s a t ha
    obtain ⟨hP, w, rfl, hw⟩ := ih hmore
    exact ⟨List.forall_mem_cons.2 ⟨hPa, hP⟩, g ++ (word a ++ w), by simp, g, w, hg, rfl, hends, hw⟩

theorem mark_eq_done {s r : List Char} {a : Attribute} (h : mark s = .done a r) :
    isIdentifier a.name = true ∧ ∃ g, Gap g ∧ s = g ++ ('@' :: a.name.toList ++ r) ∧ EndsWord r := by
  simp only [mark, bind_eq_done, pure_eq_done] at h
  obtain ⟨_, s₁, hsign, name, _, hname, rfl, rfl⟩ := h
  obtain ⟨g, hg, rfl⟩ := exists_gap_of_symbol hsign
  obtain ⟨hid, rfl, hends⟩ := identifier_eq_done hname
  exact ⟨hid, g, hg, by simp, hends⟩

theorem modifier_eq_done {s r : List Char} {m : Modifier} (h : modifier s = .done m r) :
    ∃ g, Gap g ∧ s = g ++ (m.keyword.toList ++ r) ∧ EndsWord r := by
  obtain ⟨word, t, hword, hm⟩ := bind_eq_done.1 h
  cases hk : Modifier.ofKeyword? word with
  | none =>
    rw [hk] at hm
    cases hm
  | some m' =>
    rw [hk] at hm
    obtain ⟨rfl, rfl⟩ := pure_eq_done.1 hm
    have heq : m'.keyword = word := by simpa using List.find?_some hk
    exact heq ▸ (name_eq_done hword).2

/-- The words in front of the keyword of a declaration. -/
theorem lead_eq_done {s s₁ s₂ : List Char} {attributes : List Attribute} {modifiers : List Modifier}
    (hattributes : many mark s = .done attributes s₁)
    (hmodifiers : many modifier s₁ = .done modifiers s₂) :
    (∀ a ∈ attributes, isIdentifier a.name = true) ∧
      ∃ w, s = w ++ s₂ ∧ WordsSpelled (leadWords attributes modifiers) w s₂ := by
  obtain ⟨ha, w, rfl, hw⟩ := many_words (fun _ _ _ => mark_eq_done) hattributes
  obtain ⟨-, v, rfl, hv⟩ := many_words (P := fun _ => True)
    (fun _ _ _ hm => ⟨trivial, modifier_eq_done hm⟩) hmodifiers
  exact ⟨ha, w ++ v, by simp, hw.append hv⟩

theorem words_pair (word : List Char) {word' g g' r : List Char} (hg : Gap g) (hg' : Gap g')
    (hends : EndsWord (g' ++ (word' ++ r))) (hends' : EndsWord r) :
    WordsSpelled [word, word'] (g ++ (word ++ (g' ++ word'))) r :=
  ⟨g, g' ++ word', hg, rfl, by simpa using hends, g', [], hg', by simp, hends', rfl⟩

theorem typeText_eq_done {s r : List Char} {text : String} (h : typeText s = .done text r) :
    ∃ k b, (∀ c ∈ k, isSpace c = true) ∧ Blank b ∧ s = k ++ (text.toList ++ b ++ r) ∧
      text.toList ++ b ≠ [] ∧ (∀ c ∈ text.toList ++ b, inType c = true) ∧
      (∀ c ∈ (text.toList ++ b).head?, isSpace c = false) ∧ Ended text.toList ∧
      ∀ c ∈ r.head?, inType c = false := by
  obtain ⟨_, t, hspaces, hrest⟩ := bind_eq_done.1 h
  have ht : t = s.dropWhile isSpace := skip_eq_done.1 hspaces
  have hs := List.takeWhile_append_dropWhile (p := isSpace) (l := s)
  rw [← ht] at hs
  split at hrest
  case isTrue => cases hrest
  case isFalse hne =>
    obtain ⟨rfl, rfl⟩ := Outcome.done.inj hrest
    obtain ⟨b, hb, htext, hended⟩ := exists_trimEnd (t.takeWhile inType)
    rw [String.toList_ofList]
    refine ⟨s.takeWhile isSpace, b, fun _ hc => List.mem_takeWhile_imp hc, hb, ?_⟩
    rw [← htext]
    refine ⟨?_, by simpa using hne, fun _ hc => List.mem_takeWhile_imp hc, ?_, hended,
      head?_dropWhile inType t⟩
    · rw [List.takeWhile_append_dropWhile, hs]
    · intro c hc
      have hhead := head?_dropWhile isSpace s
      rw [← ht] at hhead
      cases hcases : t with
      | nil => simp [hcases] at hc
      | cons d t' =>
        rw [hcases] at hhead hc
        refine hhead c ?_
        by_cases hd : inType d = true
        · simpa [hd] using hc
        · simp [hd] at hc

theorem type_eq_done {s r : List Char} {o : Option String}
    (h : optional (do symbol ':'; typeText) s = .done o r) :
    ∃ t, s = t ++ r ∧ TypeSpelled o t r := by
  rcases optional_eq_done.1 h with ⟨text, rfl, htext⟩ | ⟨rfl, rfl, -⟩
  · obtain ⟨_, s₁, hcolon, htype⟩ := bind_eq_done.1 htext
    obtain ⟨g, hg, rfl⟩ := exists_gap_of_symbol hcolon
    obtain ⟨k, b, hk, hb, rfl, hne, hin, hhead, hended, hr⟩ := typeText_eq_done htype
    exact ⟨g ++ ':' :: (k ++ (text.toList ++ b)), by simp, g, k, b, hg, hk, hb, rfl, hne, hin, hhead,
      hended, hr⟩
  · exact ⟨[], rfl, rfl⟩

theorem initializer_eq_done {s r : List Char} {o : Option Expression}
    (h : optional (do symbol '='; expression) s = .done o r) :
    ∃ i, s = i ++ r ∧ InitializerSpelled Verbatim o i r := by
  rcases optional_eq_done.1 h with ⟨e, rfl, he⟩ | ⟨rfl, rfl, -⟩
  · obtain ⟨_, s₁, hsign, hvalue⟩ := bind_eq_done.1 he
    obtain ⟨g, hg, rfl⟩ := exists_gap_of_symbol hsign
    obtain ⟨k, u, hk, rfl, hends, hu⟩ := expression_eq_done hvalue
    exact ⟨g ++ '=' :: (k ++ u), by simp, g, k, u, hg, hk, rfl, hu, hends⟩
  · exact ⟨[], rfl, rfl⟩

theorem bindingKeyword_eq_done {s r : List Char} {isConstant : Bool}
    (h : bindingKeyword s = .done isConstant r) :
    ∃ g, Gap g ∧ s = g ++ ((if isConstant then "let" else "var").toList ++ r) ∧ EndsWord r := by
  rcases orElse_eq_done.1 h with h | ⟨-, h⟩
  · obtain ⟨_, t, hword, hpure⟩ := bind_eq_done.1 h
    obtain ⟨rfl, rfl⟩ := pure_eq_done.1 hpure
    exact keyword_eq_done hword
  · obtain ⟨_, t, hword, hpure⟩ := bind_eq_done.1 h
    obtain ⟨rfl, rfl⟩ := pure_eq_done.1 hpure
    exact keyword_eq_done hword

theorem bodyKind_eq_done {s r : List Char} {kind : BodyKind} (h : bodyKind s = .done kind r) :
    ∃ g, Gap g ∧ s = g ++ (kind.keyword.toList ++ r) ∧ EndsWord r := by
  rcases orElse_eq_done.1 h with h | ⟨-, h⟩
  · obtain ⟨_, t, hword, hpure⟩ := bind_eq_done.1 h
    obtain ⟨rfl, rfl⟩ := pure_eq_done.1 hpure
    exact keyword_eq_done hword
  · obtain ⟨_, t, hword, hpure⟩ := bind_eq_done.1 h
    obtain ⟨rfl, rfl⟩ := pure_eq_done.1 hpure
    exact keyword_eq_done hword

theorem binding_eq_done {attributes : List Attribute} {modifiers : List Modifier}
    {s r : List Char} {d : Declaration} (h : binding attributes modifiers s = .done d r)
    (hattributes : ∀ a ∈ attributes, isIdentifier a.name = true) {w : List Char}
    (hw : WordsSpelled (leadWords attributes modifiers) w s) :
    ∃ u, s = u ++ r ∧ d.Spelled Verbatim (w ++ u) r := by
  simp only [binding, bind_eq_done, pure_eq_done] at h
  obtain ⟨isConstant, s₁, hkeyword, name, s₂, hname, text, s₃, htext, value, _, hvalue, rfl, rfl⟩ := h
  obtain ⟨g, hg, rfl, hends⟩ := bindingKeyword_eq_done hkeyword
  obtain ⟨hid, g', hg', rfl, hends'⟩ := name_eq_done hname
  obtain ⟨t, rfl, ht⟩ := type_eq_done htext
  obtain ⟨i, rfl, hi⟩ := initializer_eq_done hvalue
  have hpair := words_pair (if isConstant then "let" else "var").toList hg hg' hends hends'
  refine ⟨g ++ ((if isConstant then "let" else "var").toList ++ (g' ++ (name.toList ++ (t ++ i)))),
    by simp, _, t, i, ?_, WordsSpelled.append (s := w) ?_ hpair, ht, hi, hattributes, hid⟩
  · simp
  · simpa using hw

/-- In texts shorter than `n`, whatever is read as a declaration is spelled by the text that was taken. -/
def DeclarationSound (n : Nat) : Prop :=
  ∀ s d r, s.length < n → declaration s = .done d r →
    ∃ u, s = u ++ r ∧ d.Spelled Verbatim u r

theorem members_sound {n : Nat} (hn : DeclarationSound n) {s r : List Char} {ds : List Declaration}
    (hs : s.length < n) (h : members declaration s = .done ds r) :
    ∃ t, s = t ++ r ∧ MembersSpelled Verbatim ds t r := by
  induction hk : s.length using Nat.strongRecOn generalizing s ds with
  | _ k ih =>
    have hsplit := List.takeWhile_append_dropWhile (p := isMemberGap) (l := s)
    have hgap : MemberGap (s.takeWhile isMemberGap) := fun _ hc => List.mem_takeWhile_imp hc
    by_cases hbrace : (s.dropWhile isMemberGap).head? = some '}'
    · obtain ⟨t, ht⟩ : ∃ t, s.dropWhile isMemberGap = '}' :: t := by
        cases hd : s.dropWhile isMemberGap with
        | nil => simp [hd] at hbrace
        | cons c t => exact ⟨t, by rw [hd] at hbrace; rw [Option.some.inj hbrace]⟩
      rw [members_of_brace _ ht] at h
      obtain ⟨rfl, rfl⟩ := Outcome.done.inj h
      rw [ht] at hsplit
      exact ⟨s.takeWhile isMemberGap ++ ['}'], by simpa using hsplit.symm, _, hgap, rfl⟩
    · rw [members_of_member consumes_declaration hbrace] at h
      obtain ⟨d, s₁, hd, hrest⟩ := bind_eq_done.1 h
      obtain ⟨more, s₂, hmore, hpure⟩ := bind_eq_done.1 hrest
      obtain ⟨rfl, rfl⟩ := pure_eq_done.1 hpure
      have hdrop := List.length_dropWhile_le isMemberGap s
      have hlt := consumes_declaration _ _ _ hd
      obtain ⟨u, hu, hspelled⟩ := hn _ d s₁ (by omega) hd
      obtain ⟨t, rfl, ht⟩ := ih s₁.length (by omega) (by omega) hmore rfl
      refine ⟨s.takeWhile isMemberGap ++ (u ++ t), ?_, _, u, t, hgap, rfl, ?_, hspelled, ht⟩
      · rw [hu] at hsplit
        simpa using hsplit.symm
      · have hhead := head?_dropWhile isMemberGap s
        rw [hu] at hhead
        cases u with
        | nil => simp
        | cons c u => exact hhead

theorem declarationShape_eq_done {n : Nat} (hn : DeclarationSound n) {s r : List Char}
    {d : Declaration} (hs : s.length ≤ n) (h : declarationShape declaration s = .done d r) :
    ∃ u, s = u ++ r ∧ d.Spelled Verbatim u r := by
  obtain ⟨attributes, s₁, hattributes, hrest⟩ := bind_eq_done.1 h
  obtain ⟨modifiers, s₂, hmodifiers, hrest₁⟩ := bind_eq_done.1 hrest
  obtain ⟨hids, w, rfl, hw⟩ := lead_eq_done hattributes hmodifiers
  obtain ⟨o, s₃, ho, hrest₂⟩ := bind_eq_done.1 hrest₁
  rcases optional_eq_done.1 ho with ⟨kind, rfl, hkind⟩ | ⟨rfl, rfl, -⟩
  · obtain ⟨g, hg, rfl, hends⟩ := bodyKind_eq_done hkind
    obtain ⟨name, s₄, hname, hrest₃⟩ := bind_eq_done.1 hrest₂
    obtain ⟨hid, g', hg', rfl, hends'⟩ := name_eq_done hname
    obtain ⟨ds, s₅, hblock, hpure⟩ := bind_eq_done.1 hrest₃
    obtain ⟨rfl, rfl⟩ := pure_eq_done.1 hpure
    obtain ⟨_, s₆, hbrace, hmembers⟩ := bind_eq_done.1 hblock
    obtain ⟨k, hk, rfl⟩ := exists_gap_of_symbol hbrace
    have hlen : s₆.length < n := by
      simp only [List.length_append, List.length_cons] at hs
      omega
    obtain ⟨t, rfl, ht⟩ := members_sound hn hlen hmembers
    have hpair := words_pair kind.keyword.toList hg hg' hends hends'
    refine ⟨w ++ (g ++ (kind.keyword.toList ++ (g' ++ (name.toList ++ (k ++ '{' :: t))))), by simp,
      w ++ (g ++ (kind.keyword.toList ++ (g' ++ name.toList))), k, t, hk, by simp,
      WordsSpelled.append ?_ hpair, ht, hids, hid⟩
    simpa using hw
  · obtain ⟨u, rfl, hu⟩ := binding_eq_done hrest₂ hids hw
    exact ⟨w ++ u, by simp, hu⟩

theorem declarationSound (n : Nat) : DeclarationSound n := by
  induction n with
  | zero => exact fun s d r hs => absurd hs (Nat.not_lt_zero _)
  | succ n ih =>
    intro s d r hs h
    rw [declaration_eq] at h
    exact declarationShape_eq_done ih (by omega) h

theorem declaration_eq_done {s r : List Char} {d : Declaration} (h : declaration s = .done d r) :
    ∃ u, s = u ++ r ∧ d.Spelled Verbatim u r :=
  declarationSound (s.length + 1) s d r (Nat.lt_succ_self _) h

end SourceMacros.Reader

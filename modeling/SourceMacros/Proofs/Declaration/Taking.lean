import SourceMacros.Proofs.Declaration.Reading
import SourceMacros.Proofs.Expression.Taking

/-! A declaration is read off every text that spells it, unless what follows could go on with it,
`declaration_of_spelled`. -/

namespace SourceMacros.Reader

open Text

variable {α : Type}

/-- Neither a type nor an initializer follows. -/
def Quits (c : List Char) : Prop :=
  (c.dropWhile isGap).head? ≠ some ':' ∧ (c.dropWhile isGap).head? ≠ some '='

theorem wordsSpelled_append {words words' : List (List Char)} {s c : List Char}
    (h : WordsSpelled (words ++ words') s c) :
    ∃ w w', s = w ++ w' ∧ WordsSpelled words w (w' ++ c) ∧ WordsSpelled words' w' c := by
  induction words generalizing s with
  | nil => exact ⟨[], s, rfl, rfl, h⟩
  | cons word words ih =>
    obtain ⟨g, t, hg, rfl, hends, ht⟩ := h
    obtain ⟨w, w', rfl, hw, hw'⟩ := ih ht
    exact ⟨g ++ (word ++ w), w', by simp, ⟨g, w, hg, rfl, by simpa using hends, hw⟩, hw'⟩

theorem many_of_words {p : Reader α} {word : α → List Char} {P : α → Prop}
    (hp : ∀ a g r, P a → Gap g → EndsWord r → p (g ++ (word a ++ r)) = .done a r)
    (hne : ∀ a, P a → word a ≠ []) {as : List α} (hP : ∀ a ∈ as, P a) {w c : List Char}
    (hw : WordsSpelled (as.map word) w c) (hend : ∃ t, p c = .miss t) :
    many p (w ++ c) = .done as c := by
  induction as generalizing w with
  | nil =>
    obtain rfl : w = [] := hw
    obtain ⟨t, ht⟩ := hend
    exact many_of_miss ht
  | cons a as ih =>
    obtain ⟨g, t, hg, rfl, hends, ht⟩ := hw
    obtain ⟨hPa, hP⟩ := List.forall_mem_cons.1 hP
    have ha := hp a g (t ++ c) hPa hg hends
    have hlen : (t ++ c).length < (g ++ (word a ++ t) ++ c).length := by
      have := List.length_pos_iff.2 (hne a hPa)
      simp only [List.length_append]
      omega
    refine many_of_done ?_ hlen (ih hP ht)
    simpa using ha

theorem name_done {w g r : List Char} (hw : isIdentifierText w = true) (hg : Gap g)
    (hr : EndsWord r) : name (g ++ (w ++ r)) = .done (String.ofList w) r := by
  obtain ⟨c, t, rfl, hc, -⟩ := exists_cons_of_isIdentifierText hw
  rw [name, bind_apply, gap]
  simp only [skip]
  rw [hg.dropWhile_append, List.cons_append, dropWhile_cons_of_neg (isGap_of_startsIdentifier hc),
    ← List.cons_append]
  exact identifier_append hw hr

theorem mark_done (a : Attribute) (g r : List Char) (ha : isIdentifier a.name = true) (hg : Gap g)
    (hr : EndsWord r) : mark (g ++ ('@' :: a.name.toList ++ r)) = .done a r := by
  have hword := identifier_append ha hr
  rw [String.ofList_toList] at hword
  have hsign := symbol_gap (c := '@') hg (by decide) (a.name.toList ++ r)
  rw [List.cons_append, mark, bind_done hsign, bind_done hword]
  rfl

theorem modifier_done (m : Modifier) (g r : List Char) (hg : Gap g) (hr : EndsWord r) :
    modifier (g ++ (m.keyword.toList ++ r)) = .done m r := by
  have hname := name_done (w := m.keyword.toList) (by cases m <;> decide) hg hr
  rw [String.ofList_toList] at hname
  have hm : Modifier.ofKeyword? m.keyword = some m := by cases m <;> rfl
  rw [modifier, bind_done hname, hm]
  rfl

theorem modifier_miss {word : String} (hword : isIdentifier word = true)
    (hm : Modifier.ofKeyword? word = none) {g r : List Char} (hg : Gap g) (hr : EndsWord r) :
    ∃ t, modifier (g ++ (word.toList ++ r)) = .miss t := by
  have hname := name_done hword hg hr
  rw [String.ofList_toList] at hname
  refine ⟨r, ?_⟩
  rw [modifier, bind_done hname, hm]
  rfl

theorem keyword_apply {word found : String} (hfound : isIdentifier found = true) {g r : List Char}
    (hg : Gap g) (hr : EndsWord r) : keyword word (g ++ (found.toList ++ r)) =
      if found = word then .done () r else .miss (g ++ (found.toList ++ r)) := by
  have hname := name_done hfound hg hr
  rw [String.ofList_toList] at hname
  simp only [keyword, hname]

theorem bodyKind_done (kind : BodyKind) {g r : List Char} (hg : Gap g) (hr : EndsWord r) :
    bodyKind (g ++ (kind.keyword.toList ++ r)) = .done kind r := by
  have hkeyword : ∀ word, keyword word (g ++ (kind.keyword.toList ++ r)) =
      if kind.keyword = word then .done () r else .miss (g ++ (kind.keyword.toList ++ r)) := fun word =>
    keyword_apply (by cases kind <;> decide) hg hr
  cases kind with
  | struct =>
    exact orElse_done ((bind_done (hkeyword "struct")).trans rfl)
  | reference =>
    have hmiss : (do keyword BodyKind.struct.keyword; return .struct : Reader BodyKind)
        (g ++ (BodyKind.reference.keyword.toList ++ r)) = .miss _ := bind_miss (hkeyword "struct")
    exact (orElse_miss hmiss).trans ((bind_done (hkeyword "class")).trans rfl)

theorem bodyKind_miss (b : Binding) {g r : List Char} (hg : Gap g) (hr : EndsWord r) :
    ∃ t, bodyKind (g ++ (b.keyword.toList ++ r)) = .miss t := by
  have hkeyword : ∀ kind : BodyKind, keyword kind.keyword (g ++ (b.keyword.toList ++ r)) =
      .miss (g ++ (b.keyword.toList ++ r)) := by
    intro kind
    rw [keyword_apply (isIdentifier_keyword b) hg hr, if_neg]
    unfold Binding.keyword
    cases b.isConstant <;> cases kind <;> decide
  exact ⟨_, (orElse_miss (bind_miss (hkeyword .struct))).trans (bind_miss (hkeyword .reference))⟩

theorem bindingKeyword_done (b : Binding) {g r : List Char} (hg : Gap g) (hr : EndsWord r) :
    bindingKeyword (g ++ (b.keyword.toList ++ r)) = .done b.isConstant r := by
  have hkeyword : ∀ word, keyword word (g ++ (b.keyword.toList ++ r)) =
      if b.keyword = word then .done () r else .miss (g ++ (b.keyword.toList ++ r)) := fun word =>
    keyword_apply (isIdentifier_keyword b) hg hr
  cases hb : b.isConstant with
  | true =>
    have hlet : keyword "let" (g ++ (b.keyword.toList ++ r)) = .done () r := by
      rw [hkeyword, if_pos (by simp [Binding.keyword, hb])]
    exact orElse_done ((bind_done hlet).trans rfl)
  | false =>
    have hlet : keyword "let" (g ++ (b.keyword.toList ++ r)) =
        .miss (g ++ (b.keyword.toList ++ r)) := by
      rw [hkeyword, if_neg (by simp [Binding.keyword, hb])]
    have hvar : keyword "var" (g ++ (b.keyword.toList ++ r)) = .done () r := by
      rw [hkeyword, if_pos (by simp [Binding.keyword, hb])]
    exact (orElse_miss (bind_miss hlet)).trans ((bind_done hvar).trans rfl)

theorem typeText_done {text : String} {h b c : List Char} (hh : ∀ k ∈ h, isSpace k = true)
    (hb : Blank b) (hne : text.toList ++ b ≠ []) (hin : ∀ k ∈ text.toList ++ b, inType k = true)
    (hhead : ∀ k ∈ (text.toList ++ b).head?, isSpace k = false) (hended : Ended text.toList)
    (hc : ∀ k ∈ c.head?, inType k = false) :
    typeText (h ++ (text.toList ++ b ++ c)) = .done text c := by
  have hspaces : spaces (h ++ (text.toList ++ b ++ c)) = .done () (text.toList ++ b ++ c) := by
    refine skip_eq_done.2 ?_
    rw [List.dropWhile_append_of_pos hh]
    cases ht : text.toList ++ b with
    | nil => exact absurd ht hne
    | cons k t =>
      rw [ht] at hhead
      rw [List.cons_append, dropWhile_cons_of_neg (hhead k rfl)]
  have htake := takeWhile_append_eq hin hc
  have hdrop := dropWhile_append_eq hin hc
  refine (bind_done hspaces).trans ?_
  simp only [htake, hdrop, List.isEmpty_iff, hne, if_false, trimEnd_append hb hended,
    String.ofList_toList]

theorem type_of_spelled {o : Option String} {t c : List Char} (h : TypeSpelled o t c)
    (hc : o = none → (c.dropWhile isGap).head? ≠ some ':') :
    optional (do symbol ':'; typeText) (t ++ c) = .done o c := by
  cases o with
  | none =>
    obtain rfl : t = [] := h
    exact optional_miss (bind_miss (symbol_miss (hc rfl)))
  | some text =>
    obtain ⟨g, k, b, hg, hk, hb, rfl, hne, hin, hhead, hended, hr⟩ := h
    have hcolon := symbol_gap (c := ':') hg (by decide) (k ++ (text.toList ++ b ++ c))
    have htype := typeText_done hk hb hne hin hhead hended hr
    have hall := (bind_done (f := fun _ => typeText) hcolon).trans htype
    refine optional_done ?_
    simpa using hall

theorem initializer_of_spelled {o : Option Expression} {i c : List Char}
    (h : InitializerSpelled Taken o i c)
    (hc : o = none → (c.dropWhile isGap).head? ≠ some '=') :
    ∃ r, optional (do symbol '='; expression) (i ++ c) = .done o r ∧
      r.dropWhile isGap = c.dropWhile isGap := by
  cases o with
  | none =>
    obtain rfl : i = [] := h
    exact ⟨c, optional_miss (bind_miss (symbol_miss (hc rfl))), rfl⟩
  | some e =>
    obtain ⟨g, k, u, hg, hk, rfl, hu, hends⟩ := h
    obtain ⟨r, hread, hr⟩ := (reads_of_spelled e hu hends).gap hk
    have hsign := symbol_gap (c := '=') hg (by decide) (k ++ (u ++ c))
    have hall := (bind_done (f := fun _ => expression) hsign).trans hread
    refine ⟨r, optional_done ?_, hr⟩
    simpa using hall

theorem lead_of_spelled {attributes : List Attribute} {modifiers : List Modifier} {keyword : String}
    (hattributes : ∀ a ∈ attributes, isIdentifier a.name = true)
    (hkeyword : isIdentifier keyword = true) (hmodifier : Modifier.ofKeyword? keyword = none)
    {words : List (List Char)} {s c : List Char}
    (h : WordsSpelled (leadWords attributes modifiers ++ keyword.toList :: words) s c) :
    ∃ w v s₁, s = w ++ v ∧ many mark (s ++ c) = .done attributes s₁ ∧
      many modifier s₁ = .done modifiers (v ++ c) ∧
      WordsSpelled (keyword.toList :: words) v c := by
  rw [leadWords, List.append_assoc] at h
  obtain ⟨w, s₁, rfl, hw, hs₁⟩ := wordsSpelled_append h
  obtain ⟨w', v, rfl, hw', hv⟩ := wordsSpelled_append hs₁
  have hmods : many modifier (w' ++ (v ++ c)) = .done modifiers (v ++ c) := by
    refine many_of_words (P := fun _ => True) (fun m g r _ hg hr => modifier_done m g r hg hr)
      (fun m _ => by cases m <;> decide) (fun _ _ => trivial) hw' ?_
    obtain ⟨g, t, hg, rfl, hends, -⟩ := hv
    simpa using modifier_miss hkeyword hmodifier hg hends
  have hfirst : ∃ k r, (w' ++ (v ++ c)).dropWhile isGap = k :: r ∧ startsIdentifier k = true := by
    have hone : ∀ (word : String) {g t : List Char}, isIdentifier word = true → Gap g →
        ∃ k r, (g ++ (word.toList ++ t)).dropWhile isGap = k :: r ∧ startsIdentifier k = true := by
      intro word g t hname hg
      obtain ⟨k, r, hk, hstart⟩ := exists_cons_of_isIdentifier hname
      refine ⟨k, r ++ t, ?_, hstart⟩
      rw [hg.dropWhile_append, hk, List.cons_append,
        dropWhile_cons_of_neg (isGap_of_startsIdentifier hstart)]
    cases modifiers with
    | nil =>
      obtain rfl : w' = [] := hw'
      obtain ⟨g, t, hg, rfl, -⟩ := hv
      simpa using hone keyword (t := t ++ c) hkeyword hg
    | cons m modifiers =>
      obtain ⟨g, t, hg, rfl, -⟩ := hw'
      simpa using hone m.keyword (t := t ++ (v ++ c)) (by cases m <;> decide) hg
  have hmark : ∃ t, mark (w' ++ (v ++ c)) = .miss t := by
    obtain ⟨k, r, hdrop, hstart⟩ := hfirst
    refine ⟨_, bind_miss (symbol_miss ?_)⟩
    rw [hdrop]
    intro hk
    rw [Option.some.inj hk] at hstart
    exact absurd hstart (by decide)
  have hmarks := many_of_words (fun a g r ha hg hr => mark_done a g r ha hg hr) (fun _ _ => by simp)
    hattributes (by simpa using hw) hmark
  exact ⟨w ++ w', v, w' ++ (v ++ c), by simp, by simpa using hmarks, hmods, hv⟩

theorem binding_of_spelled {b : Binding} {s c : List Char} (h : b.Spelled Taken s c)
    (hc : Quits c) : ∃ r, declaration (s ++ c) = .done (.binding b) r ∧
      r.dropWhile isGap = c.dropWhile isGap := by
  obtain ⟨w, t, i, rfl, hw, ht, hi, hattributes, hname⟩ := h
  have hkeyword : Modifier.ofKeyword? b.keyword = none := by
    unfold Binding.keyword
    cases b.isConstant <;> rfl
  obtain ⟨w', v, s₁, rfl, hmarks, hmods, hv⟩ :=
    lead_of_spelled hattributes (isIdentifier_keyword b) hkeyword hw
  obtain ⟨g, v', hg, rfl, hends, g', v'', hg', rfl, hends', rfl⟩ := hv
  have hcolon : b.typeText = none → ((i ++ c).dropWhile isGap).head? ≠ some ':' := by
    intro _
    cases hinit : b.initializer with
    | none =>
      rw [hinit] at hi
      obtain rfl : i = [] := hi
      exact hc.1
    | some e =>
      rw [hinit] at hi
      obtain ⟨k, l, u, hk, -, rfl, -⟩ := hi
      rw [List.append_assoc, hk.dropWhile_append, List.cons_append, dropWhile_cons_of_neg (by decide)]
      simp
  have htype := type_of_spelled ht hcolon
  obtain ⟨r, hinit, hr⟩ := initializer_of_spelled hi fun _ => hc.2
  obtain ⟨_, hbody⟩ := bodyKind_miss b hg hends
  have hlet := bindingKeyword_done b hg hends
  have hbname := name_done hname hg' hends'
  rw [String.ofList_toList] at hbname
  refine ⟨r, ?_, hr⟩
  simp only [List.append_assoc, List.nil_append] at hmarks hmods hbody hlet hbname ⊢
  rw [declaration_eq, declarationShape, bind_done hmarks, bind_done hmods,
    bind_done (optional_miss hbody)]
  simp only
  rw [binding, bind_done hlet, bind_done hbname, bind_done htype, bind_done hinit]
  rfl

theorem dropWhile_memberGap {m : List Char} (hm : MemberGap m) (s : List Char) :
    (m ++ s).dropWhile isMemberGap = s.dropWhile isMemberGap :=
  List.dropWhile_append_of_pos hm

/-- What is left of a gap makes no difference to the members after it. -/
theorem memberGap_congr {s s' : List Char} (h : s.dropWhile isGap = s'.dropWhile isGap) :
    s.dropWhile isMemberGap = s'.dropWhile isMemberGap := by
  have hdrop : ∀ t : List Char, t.dropWhile isMemberGap = (t.dropWhile isGap).dropWhile isMemberGap := by
    intro t
    obtain ⟨g, hg, ht⟩ := exists_gap t
    exact (congrArg _ ht).trans (dropWhile_memberGap (fun k hk => isMemberGap_of_isGap (hg k hk)) _)
  rw [hdrop s, hdrop s', h]

theorem quits_of_memberGap {m : List Char} (hm : MemberGap m) {k : Char} {v : List Char}
    (hk : isGap k = false) (hcolon : k ≠ ':') (hequals : k ≠ '=') : Quits (m ++ k :: v) := by
  induction m with
  | nil =>
    rw [Quits, List.nil_append, dropWhile_cons_of_neg hk]
    simp [hcolon, hequals]
  | cons c m ih =>
    obtain ⟨hc, hm⟩ := List.forall_mem_cons.1 hm
    by_cases hgap : isGap c = true
    · rw [Quits, List.cons_append, List.dropWhile_cons_of_pos hgap]
      exact ih hm
    · obtain rfl : c = ';' := by simpa [isMemberGap, hgap] using hc
      rw [Quits, List.cons_append, dropWhile_cons_of_neg (by decide)]
      simp

section Spelled

variable {verbatim : String → List Char → List Char → Prop}

/-- Members end the declaration in front of them. -/
theorem quits_of_members {ds : List Declaration} {t c : List Char}
    (h : MembersSpelled verbatim ds t c) : Quits (t ++ c) := by
  cases ds with
  | nil =>
    obtain ⟨m, hm, rfl⟩ := h
    simpa using quits_of_memberGap hm (k := '}') (v := c) (by decide) (by decide) (by decide)
  | cons d ds =>
    obtain ⟨m, u, t, hm, rfl, -, hd, -⟩ := h
    obtain ⟨g, k, v, hg, rfl, hk⟩ := hd.first
    have hmg : MemberGap (m ++ g) := by
      intro x hx
      rcases List.mem_append.1 hx with hx | hx
      · exact hm x hx
      · exact isMemberGap_of_isGap (hg x hx)
    have hquits := quits_of_memberGap hmg (k := k) (v := v ++ (t ++ c))
      (isGap_of_isMemberGap (isMemberGap_of_startsWord hk))
      (by rintro rfl; exact absurd hk (by decide)) (by rintro rfl; exact absurd hk (by decide))
    simpa using hquits

end Spelled

mutual

/-- A declaration is read off every text that spells it, if nothing follows that goes on with it. -/
theorem declaration_of_spelled : (d : Declaration) → {s c : List Char} → d.Spelled Taken s c →
    Quits c → ∃ r, declaration (s ++ c) = .done d r ∧ r.dropWhile isGap = c.dropWhile isGap
  | .binding b, s, c, h, hc => binding_of_spelled h hc
  | .body kind name modifiers attributes ds, s, c, ⟨w, g, t, hg, hs, hw, ht, hattributes, hname⟩, _ => by
    subst hs
    obtain ⟨w', v, s₁, rfl, hmarks, hmods, hv⟩ :=
      lead_of_spelled hattributes (by cases kind <;> decide) (by cases kind <;> rfl) hw
    obtain ⟨k, v', hk, rfl, hends, k', v'', hk', rfl, hends', rfl⟩ := hv
    have hkind := bodyKind_done kind hk hends
    have hnamed := name_done hname hk' hends'
    rw [String.ofList_toList] at hnamed
    have hbrace := symbol_gap (c := '{') hg (by decide) (t ++ c)
    have hmembers : members declaration (t ++ c) = .done ds c := members_of_spelled ds ht rfl
    refine ⟨c, ?_, rfl⟩
    have hblock : memberBlock declaration (g ++ '{' :: (t ++ c)) = .done ds c :=
      (bind_done (f := fun _ => members declaration) hbrace).trans hmembers
    simp only [List.append_assoc, List.cons_append, List.nil_append] at hmarks hmods hkind hnamed ⊢
    rw [declaration_eq, declarationShape, bind_done hmarks, bind_done hmods,
      bind_done (optional_done hkind)]
    simp only
    rw [bind_done hnamed, bind_done hblock]
    rfl

theorem members_of_spelled : (ds : List Declaration) → {t c s' : List Char} →
    MembersSpelled Taken ds t c → s'.dropWhile isMemberGap = (t ++ c).dropWhile isMemberGap →
    members declaration s' = .done ds c
  | [], t, c, s', ⟨m, hm, ht⟩, hs' => by
    refine members_of_brace _ ?_
    rw [hs', ht, List.append_assoc, dropWhile_memberGap hm]
    exact dropWhile_cons_of_neg (by decide)
  | d :: ds, t, c, s', ⟨m, u, t', hm, ht, hu, hd, ht'⟩, hs' => by
    obtain ⟨k, v, rfl, hk⟩ : ∃ k v, u = k :: v ∧ startsWord k = true := by
      obtain ⟨g, k, v, hg, rfl, hk⟩ := hd.first
      cases g with
      | nil => exact ⟨k, v, rfl, hk⟩
      | cons x g =>
        have hx := isMemberGap_of_isGap (hg x (by simp))
        rw [hu x rfl] at hx
        cases hx
    have hdrop : s'.dropWhile isMemberGap = k :: v ++ (t' ++ c) := by
      rw [hs', ht, List.append_assoc, dropWhile_memberGap hm, List.append_assoc, List.cons_append,
        dropWhile_cons_of_neg (hu k rfl)]
    have hbrace : (s'.dropWhile isMemberGap).head? ≠ some '}' := by
      rw [hdrop]
      rintro hhead
      obtain rfl := Option.some.inj hhead
      exact absurd hk (by decide)
    obtain ⟨r, hread, hr⟩ := declaration_of_spelled d hd (quits_of_members ht')
    have hrest := members_of_spelled ds ht' (memberGap_congr hr)
    rw [members_of_member consumes_declaration hbrace, hdrop, bind_done hread, bind_done hrest]
    rfl

end

end SourceMacros.Reader

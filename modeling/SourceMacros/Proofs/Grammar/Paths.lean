import SourceMacros.Grammar.Whole
import SourceMacros.Proofs.Grammar.Rewrites

/-! Paths of names without arguments, and where readers copy them: as the path of an attribute, `copies_barePath`,
as a type in front of its bounds, `copies_type`, and as a bound, `copies_bound`. -/

namespace SourceMacros.Grammar

section Words

theorem isName_word (name : String) (rest : List Token) :
    isName (.word name :: rest) = !Token.keywords.contains name := by
  by_cases hname : name ∈ Token.keywords <;> simp [isName, Kind.stands, Kind.split, hname]

theorem isWord_word (text name : String) (rest : List Token) :
    isWord text (.word name :: rest) = decide (name = text) := by
  by_cases hname : name = text <;> simp [isWord, Kind.stands, Kind.split, hname]

theorem startsBareName_word {name : String} (h : startsBareName [.word name] = true) (rest : List Token) :
    startsBareName (.word name :: rest) = true := by
  simpa only [startsBareName, isName_word, isWord_word] using h

/-- A few keywords apart, only names may stand in a path. -/
theorem not_mem_keywords_of_startsBareName {name : String} (h : startsBareName [.word name] = true)
    (hword : name ∉ ["super", "self", "Self", "crate"]) : name ∉ Token.keywords := by
  have hnone : ["super", "self", "Self", "crate"].any (isWord · [.word name]) = false := by
    simpa [isWord_word] using hword
  rw [startsBareName, hnone, Bool.or_false, isName_word] at h
  simpa using h

end Words

structure BarePath where
  isRooted : Bool
  first : String
  others : List String

namespace BarePath

def othersTokens (names : List String) : List Token :=
  names.flatMap fun name => Token.marks [':', ':'] ++ [.word name]

def tokens (p : BarePath) : List Token :=
  (if p.isRooted then Token.marks [':', ':'] else []) ++ .word p.first :: othersTokens p.others

def Valid (p : BarePath) : Prop := ∀ name ∈ p.first :: p.others, startsBareName [.word name] = true

theorem length_le_othersTokens (names : List String) : names.length ≤ (othersTokens names).length := by
  induction names with
  | nil => exact Nat.le_refl 0
  | cons name names ih =>
    simp only [othersTokens, List.flatMap_cons, List.length_append, List.length_cons] at ih ⊢
    omega

variable (p : BarePath) (rest : List Token)

theorem tokens_ne_nil : p.tokens ≠ [] := by simp [tokens]

theorem not_group (delimiter : Delimiter) : (Kind.group delimiter).stands (p.tokens ++ rest) = false := by
  obtain ⟨isRooted, first, others⟩ := p
  cases isRooted <;> rfl

theorem not_lifetime : Kind.lifetime.stands (p.tokens ++ rest) = false := by
  obtain ⟨isRooted, first, others⟩ := p
  cases isRooted <;> rfl

theorem split_angle : (Kind.sign "<").split (p.tokens ++ rest) = none := by
  obtain ⟨isRooted, first, others⟩ := p
  cases isRooted <;> rfl

theorem split_question : (Kind.sign "?").split (p.tokens ++ rest) = none := by
  obtain ⟨isRooted, first, others⟩ := p
  cases isRooted <;> rfl

variable {p}

theorem Valid.split_keyword (hp : p.Valid) {text : String} (htext : startsBareName [.word text] = false) :
    (Kind.keyword text).split (p.tokens ++ rest) = none := by
  have hne : p.first ≠ text := by
    intro heq
    have hfirst := hp p.first List.mem_cons_self
    rw [heq, htext] at hfirst
    cases hfirst
  obtain ⟨isRooted, first, others⟩ := p
  cases isRooted with
  | true => rfl
  | false => simp [tokens, Kind.split, hne]

theorem Valid.not_keyword (hp : p.Valid) {text : String} (htext : startsBareName [.word text] = false) :
    (Kind.keyword text).stands (p.tokens ++ rest) = false := by
  rw [Kind.stands, hp.split_keyword rest htext]
  rfl

theorem Valid.starts (hp : p.Valid) :
    (startsBareName (p.tokens ++ rest) || isSign "::" (p.tokens ++ rest)) = true := by
  obtain ⟨isRooted, first, others⟩ := p
  cases isRooted with
  | true => rfl
  | false =>
    have hfirst := startsBareName_word (hp first List.mem_cons_self) (othersTokens others ++ rest)
    exact Bool.or_eq_true_iff.2 (.inl hfirst)

end BarePath

section AttributePaths

variable {rest : List Token}

theorem split_sign_eq_none {text : String} (h : isSign text rest = false) :
    (Kind.sign text).split rest = none := by
  simpa [isSign, Kind.stands] using h

theorem copies_bareNames {first : String} {others : List String}
    (hothers : ∀ name ∈ others, startsBareName [.word name] = true) (hrest : isSign "::" rest = false) {n : Nat}
    (hn : others.length < n) :
    Copies (bareNames n) (.word first :: BarePath.othersTokens others) () rest := by
  induction others generalizing first n with
  | nil =>
    obtain ⟨n, rfl⟩ := Nat.exists_eq_add_of_lt hn
    refine Rewrites.bind_look (copies_word first _) ?_
    exact Rewrites.after_look (copies_accept_none (split_sign_eq_none hrest)) (copies_pure () rest)
  | cons second others ih =>
    obtain ⟨hsecond, hothers⟩ := List.forall_mem_cons.1 hothers
    cases n with
    | zero => simp at hn
    | succ n =>
      have hsign : Copies (acceptSign "::") (Token.marks [':', ':']) true
          (.word second :: BarePath.othersTokens others ++ rest) := rewrites_accept (split_sign "::" _)
      refine (copies_word first _).bind (hsign.bind (Rewrites.after_look (copies_sees startsBareName _) ?_))
      rw [List.cons_append, startsBareName_word hsecond]
      exact ih hothers (Nat.lt_of_succ_lt_succ hn)

theorem copies_barePath {p : BarePath} (hp : p.Valid) (hrest : isSign "::" rest = false) :
    Copies barePath p.tokens () rest := by
  obtain ⟨hfirst, hothers⟩ := List.forall_mem_cons.1 hp
  have hnames : Copies (do if ← sees startsBareName then bareNames (← front).length else let _ ← name)
      (.word p.first :: BarePath.othersTokens p.others) () rest := by
    refine Rewrites.after_look (copies_sees startsBareName _) ?_
    rw [List.cons_append, startsBareName_word hfirst]
    refine Rewrites.after_look (copies_front _) (copies_bareNames hothers hrest ?_)
    have hlength := BarePath.length_le_othersTokens p.others
    simp only [List.length_cons, List.length_append]
    omega
  obtain ⟨isRooted, first, others⟩ := p
  cases isRooted with
  | true => exact Rewrites.bind (rewrites_accept (split_sign "::" _)) hnames
  | false => exact Rewrites.after_look (copies_accept_none rfl) hnames

end AttributePaths

/-- What may follow a type or a bound in a clause of bounds. -/
inductive Closes : List Token → Prop
  | mk {c : Char} (h : c ∈ [':', '+', ',', ';']) (rest : List Token) : Closes (.lone c :: rest)

variable (parts : Parts) {rest : List Token}

theorem Closes.not_path (h : Closes rest) : isSign "::" rest = false ∧ isSign "<" rest = false ∧
    isParenthesized rest = false ∧ isSign "!" rest = false := by
  cases h with
  | mk hc rest =>
    simp only [List.mem_cons, List.not_mem_nil, or_false] at hc
    rcases hc with rfl | rfl | rfl | rfl <;> exact ⟨rfl, rfl, rfl, rfl⟩

theorem Closes.not_startsArguments (h : Closes rest) : startsArguments false rest = false := by
  obtain ⟨hcolons, hangle, -⟩ := h.not_path
  simp [startsArguments, hcolons, hangle]

theorem Closes.not_startsParenthesized (h : Closes rest) (shape : PathShape) :
    startsParenthesized shape rest = false := by
  obtain ⟨hcolons, -, hgroup, -⟩ := h.not_path
  simp [startsParenthesized, hcolons, hgroup]

theorem copies_segment {name : String} (hname : startsBareName [.word name] = true)
    (hrest : startsArguments false rest = false) :
    Copies (segment parts false) [.word name] (some 0) rest := by
  have hend : Copies (do if ← sees (startsArguments false) then angleArguments parts else return some 0)
      [] (some 0) rest := by
    refine Rewrites.after_look (copies_sees _ _) ?_
    rw [List.nil_append, hrest]
    exact copies_pure _ _
  refine Rewrites.after_look (copies_sees _ _) ?_
  by_cases hword : ["super", "self", "crate", "try"].any (isWord · (.word name :: rest)) = true
  · rw [List.cons_append, List.nil_append, if_pos hword]
    exact (copies_word name rest).bind_look (copies_pure _ _)
  · rw [List.cons_append, List.nil_append, if_neg hword]
    by_cases hself : name = "Self"
    · subst hself
      exact (rewrites_accept (split_keyword "Self" rest)).bind_look hend
    · have hplain : name ∉ Token.keywords := by
        refine not_mem_keywords_of_startsBareName hname ?_
        simp [isWord_word] at hword
        simp [hword, hself]
      refine Rewrites.after_look (copies_accept_none (by simp [Kind.split, hself])) ?_
      exact (copies_name hplain rest).bind_look hend

def IsPlainShape (shape : PathShape) : Prop := shape.isQualified = false ∧ shape.emptyEnd = some 0

theorem copies_segmentsWithin {names : List String} (hnames : ∀ name ∈ names, startsBareName [.word name] = true)
    (hrest : Closes rest) {shape : PathShape} (hshape : IsPlainShape shape) {n : Nat} (hn : names.length < n) :
    ∃ shape', IsPlainShape shape' ∧
      Copies (segmentsWithin parts false n shape) (BarePath.othersTokens names) shape' rest := by
  induction names generalizing shape n with
  | nil =>
    obtain ⟨n, rfl⟩ := Nat.exists_eq_add_of_lt hn
    obtain ⟨hcolons, -⟩ := hrest.not_path
    refine ⟨shape, hshape, Rewrites.after_look (copies_sees _ _) ?_⟩
    have hend : (isSign "::" rest && !isParenthesized (skip 2 rest)) = false := by simp [hcolons]
    change Copies (if (isSign "::" rest && !isParenthesized (skip 2 rest)) = true then _ else _) _ _ _
    rw [hend]
    exact copies_pure _ _
  | cons name names ih =>
    obtain ⟨hname, hnames⟩ := List.forall_mem_cons.1 hnames
    cases n with
    | zero => simp at hn
    | succ n =>
      have hfollows : startsArguments false (BarePath.othersTokens names ++ rest) = false := by
        cases names with
        | nil => exact hrest.not_startsArguments
        | cons next names => rfl
      have hplain : IsPlainShape { shape with
          isName := false, isBare := shape.isBare && (some 0 : Option Nat) = some 0, emptyEnd := some 0 } :=
        ⟨hshape.1, rfl⟩
      obtain ⟨shape', hshape', hcopies⟩ := ih hnames hplain (Nat.lt_of_succ_lt_succ hn)
      refine ⟨shape', hshape', Rewrites.after_look (copies_sees _ _) ?_⟩
      exact (copies_sign "::" _).bind ((copies_segment parts hname hfollows).bind hcopies)

theorem copies_path {p : BarePath} (hp : p.Valid) (hrest : Closes rest) :
    ∃ shape, IsPlainShape shape ∧ Copies (path parts false) p.tokens shape rest := by
  obtain ⟨hfirst, hothers⟩ := List.forall_mem_cons.1 hp
  obtain ⟨isRooted, first, others⟩ := p
  have hfollows : startsArguments false (BarePath.othersTokens others ++ rest) = false := by
    cases others with
    | nil => exact hrest.not_startsArguments
    | cons next names => rfl
  have hn : others.length < (BarePath.othersTokens others ++ rest).length + 1 := by
    have hlength := BarePath.length_le_othersTokens others
    rw [List.length_append]
    omega
  have hnames (isLed : Bool) : ∃ shape, IsPlainShape shape ∧ Copies (do
      let emptyEnd ← segment parts false
      moreSegments parts false
        { isName := !isLed, isBare := emptyEnd = some 0, isQualified := false, emptyEnd })
      (.word first :: BarePath.othersTokens others) shape rest := by
    obtain ⟨shape, hshape, hcopies⟩ := copies_segmentsWithin parts hothers hrest
      (⟨rfl, rfl⟩ : IsPlainShape ⟨!isLed, (some 0 : Option Nat) = some 0, false, some 0⟩) hn
    refine ⟨shape, hshape, (copies_segment parts hfirst hfollows).bind ?_⟩
    exact Rewrites.after_look (copies_front _) hcopies
  cases isRooted with
  | true =>
    obtain ⟨shape, hshape, hcopies⟩ := hnames true
    exact ⟨shape, hshape, Rewrites.bind (rewrites_accept (split_sign "::" _)) hcopies⟩
  | false =>
    obtain ⟨shape, hshape, hcopies⟩ := hnames false
    exact ⟨shape, hshape, Rewrites.after_look (copies_accept_none rfl) hcopies⟩

section Bounds

variable {p : BarePath} (hp : p.Valid)

include hp

theorem copies_type (rest : List Token) :
    ∃ shape, Copies (type parts true) p.tokens shape (.lone ':' :: rest) := by
  have hrest : Closes (.lone ':' :: rest) := .mk (by simp) rest
  obtain ⟨shape, ⟨hqualified, hend⟩, hpath⟩ := copies_path parts hp hrest
  have hqualifiable : Copies (qualifiablePath parts false) p.tokens shape (.lone ':' :: rest) :=
    Rewrites.after_look (copies_accept_none (p.split_angle _)) hpath
  have hparentheses (n : Nat) :
      Copies (typePathWithin parts (n + 1) shape) [] shape (.lone ':' :: rest) := by
    refine Rewrites.after_look (copies_sees _ _) ?_
    rw [List.nil_append, hrest.not_startsParenthesized]
    exact copies_pure shape _
  have hpathType : Copies (pathType parts true false) p.tokens (if shape.isName then .name else .path)
      (.lone ':' :: rest) := by
    refine hqualifiable.bind_look (Rewrites.after_look (copies_front _) ?_)
    refine Rewrites.after_look (hparentheses _) ?_
    rw [hqualified]
    refine Rewrites.after_look (copies_sees startsCallTail _) ?_
    change Rewrites (if (shape.isBare && false) = true then _ else _) _ _ _ _
    rw [Bool.and_false]
    exact Rewrites.after_look (copies_peek (.sign "+") _) (copies_pure _ _)
  refine ⟨_, @Rewrites.firstOf _ _ _ _ _ _ ⟨[.name, .sign "::", .sign "<"],
    fun ts => startsBareName ts || isSign "::" ts || isSign "<" ts, pathType parts true false⟩ ?_ hpathType⟩
  have hkeyword {text : String} (htext : startsBareName [.word text] = false) :=
    hp.not_keyword (.lone ':' :: rest) htext
  have hfor := hkeyword (by decide : startsBareName [.word "for"] = false)
  have hfn := hkeyword (by decide : startsBareName [.word "fn"] = false)
  have hunsafe := hkeyword (by decide : startsBareName [.word "unsafe"] = false)
  have hextern := hkeyword (by decide : startsBareName [.word "extern"] = false)
  simp [List.find?, Choice.of, hfor, hfn, hunsafe, hextern, p.not_group, hp.starts]

theorem copies_traitBound (hrest : Closes rest) : Copies (traitBound parts true) p.tokens false rest := by
  obtain ⟨shape, -, hpath⟩ := copies_path parts hp hrest
  have hnone {text : String} (htext : startsBareName [.word text] = false) :
      Copies (acceptKeyword text) [] false (p.tokens ++ rest) :=
    copies_accept_none (hp.split_keyword rest htext)
  have hbinder : Copies (binder parts) [] false (p.tokens ++ rest) :=
    Rewrites.after_look (hnone (by decide)) (copies_pure false _)
  have hmark : Copies (constMark true) [] false (p.tokens ++ rest) := by
    refine Rewrites.after_look (copies_peek _ _) ?_
    rw [List.nil_append, p.not_group]
    exact Rewrites.after_look (hnone (by decide)) (copies_pure false _)
  refine Rewrites.after_look hbinder (Rewrites.after_look hmark ?_)
  refine Rewrites.after_look (copies_accept_none (p.split_question rest)) ?_
  refine Rewrites.after_look (copies_pure false _) (hpath.bind_look ?_)
  refine Rewrites.after_look (copies_sees _ _) ?_
  rw [List.nil_append, hrest.not_startsParenthesized]
  exact copies_pure false rest

theorem copies_bound (hrest : Closes rest) : Copies (bound parts false true) p.tokens .trait rest := by
  have htrait : Copies (rawIf id do
      if ← peek (.group .parenthesis) then within .parenthesis (traitBound parts true)
      else traitBound parts true) p.tokens false rest := by
    refine Rewrites.rawIf (Rewrites.after_look (copies_peek _ _) ?_) rfl
    rw [p.not_group]
    exact copies_traitBound parts hp hrest
  refine Rewrites.after_look (copies_peek _ _) ?_
  rw [p.not_lifetime]
  refine Rewrites.after_look (copies_peek _ _) ?_
  rw [hp.not_keyword _ (by decide)]
  exact htrait.bind_look (copies_pure _ _)

end Bounds

end SourceMacros.Grammar

import SourceMacros.Grammar.Basic

/-! What a reader of tokens takes and what it writes in its place: `Rewrites`, with a law for each way in which
readers are put together. -/

namespace SourceMacros.Grammar

variable {α β : Type}

/-- In front of `rest` the reader takes the tokens and writes others in their place. -/
def Rewrites (p : Grammar α) (tokens written : List Token) (a : α) (rest : List Token) : Prop :=
  ∀ before stray, p ⟨tokens ++ rest, before, stray⟩ = .ok (a, ⟨rest, before ++ written, stray⟩)

/-- The reader writes the tokens as they stand. -/
abbrev Copies (p : Grammar α) (tokens : List Token) (a : α) (rest : List Token) : Prop :=
  Rewrites p tokens tokens a rest

variable {p : Grammar α} {tokens written rest : List Token} {a : α}

theorem copies_pure (a : α) (rest : List Token) : Copies (pure a) [] a rest := by
  intro before stray
  rw [List.append_nil]
  rfl

theorem Rewrites.bind {f : α → Grammar β} {tokens' written' : List Token} {b : β}
    (h : Rewrites p tokens written a (tokens' ++ rest)) (hf : Rewrites (f a) tokens' written' b rest) :
    Rewrites (p >>= f) (tokens ++ tokens') (written ++ written') b rest := by
  intro before stray
  have hp := h before stray
  rw [← List.append_assoc] at hp
  change (p _ >>= fun r => f r.1 r.2) = _
  rw [hp, ← List.append_assoc]
  exact hf (before ++ written) stray

/-- What is seen takes no tokens. -/
theorem Rewrites.after_look {q : Grammar α} {f : α → Grammar β} {b : β} (hq : Copies q [] a (tokens ++ rest))
    (hf : Rewrites (f a) tokens written b rest) : Rewrites (q >>= f) tokens written b rest := by
  simpa using Rewrites.bind hq hf

theorem Rewrites.bind_look {f : α → Grammar β} {b : β} (h : Rewrites p tokens written a rest)
    (hf : Copies (f a) [] b rest) : Rewrites (p >>= f) tokens written b rest := by
  have hbind : Rewrites (p >>= f) (tokens ++ []) (written ++ []) b rest := h.bind hf
  rwa [List.append_nil, List.append_nil] at hbind

theorem Rewrites.bind_write {f : α → Grammar β} {b : β} (h : Rewrites p tokens [] a rest)
    (hf : Rewrites (f a) [] written b rest) : Rewrites (p >>= f) tokens written b rest := by
  have hbind : Rewrites (p >>= f) (tokens ++ []) ([] ++ written) b rest := h.bind hf
  rwa [List.append_nil, List.nil_append] at hbind

theorem Rewrites.map (h : Rewrites p tokens written a rest) (f : α → β) :
    Rewrites (f <$> p) tokens written (f a) rest := by
  rw [map_eq_pure_bind]
  exact h.bind_look (copies_pure (f a) rest)

theorem Rewrites.discard (h : Rewrites p tokens written a rest) :
    Rewrites (discard p) tokens written () rest := h.map _

theorem copies_front (rest : List Token) : Copies front [] rest rest := by
  intro before stray
  rw [List.append_nil]
  rfl

theorem copies_sees (test : List Token → Bool) (rest : List Token) :
    Copies (sees test) [] (test rest) rest := (copies_front rest).map test

theorem copies_peek (k : Kind) (rest : List Token) : Copies (peek k) [] (k.stands rest) rest :=
  copies_sees k.stands rest

theorem rewrites_write (tokens rest : List Token) : Rewrites (write tokens) [] tokens () rest :=
  fun _ _ => rfl

theorem rewrites_need {k : Kind} (h : k.split (tokens ++ rest) = some (written, rest)) :
    Rewrites (need k) tokens written written rest := by
  refine Rewrites.after_look (copies_front _) ?_
  rw [h]
  exact fun _ _ => rfl

theorem rewrites_accept {k : Kind} (h : k.split (tokens ++ rest) = some (written, rest)) :
    Rewrites (accept k) tokens written true rest := by
  have hstands : k.stands (tokens ++ rest) = true := by
    rw [Kind.stands, h]
    rfl
  refine Rewrites.after_look (copies_peek k _) ?_
  rw [hstands]
  exact (rewrites_need h).map fun _ => true

theorem copies_accept_none {k : Kind} (h : k.split rest = none) : Copies (accept k) [] false rest := by
  have hstands : k.stands rest = false := by
    rw [Kind.stands, h]
    rfl
  refine Rewrites.after_look (copies_peek k _) ?_
  rw [List.nil_append, hstands]
  exact copies_pure false rest

section Signs

theorem afterSign_marks (signs : List Char) (rest : List Token) :
    Token.afterSign signs (Token.marks signs ++ rest) = some rest := by
  fun_induction Token.marks signs with
  | case1 => rfl
  | case2 c => simp [Token.afterSign]
  | case3 c cs hcs ih =>
    obtain ⟨d, ds, rfl⟩ := List.exists_cons_of_ne_nil hcs
    simpa [Token.afterSign] using ih

theorem split_sign (text : String) (rest : List Token) :
    (Kind.sign text).split (Token.marks text.toList ++ rest) = some (Token.marks text.toList, rest) := by
  rw [Kind.split, afterSign_marks]
  rfl

theorem copies_sign (text : String) (rest : List Token) :
    Copies (sign text) (Token.marks text.toList) () rest := (rewrites_need (split_sign text rest)).discard

theorem split_keyword (text : String) (rest : List Token) :
    (Kind.keyword text).split ([.word text] ++ rest) = some ([.word text], rest) := by
  simp [Kind.split]

theorem copies_keyword (text : String) (rest : List Token) :
    Copies (keyword text) [.word text] () rest := (rewrites_need (split_keyword text rest)).discard

theorem split_name {name : String} (h : name ∉ Token.keywords) (rest : List Token) :
    Kind.name.split ([.word name] ++ rest) = some ([.word name], rest) := by
  simp [Kind.split, h]

theorem copies_name {text : String} (h : text ∉ Token.keywords) (rest : List Token) :
    Copies name [.word text] text rest := (rewrites_need (split_name h rest)).map Token.loneWord

theorem copies_word (text : String) (rest : List Token) : Copies word [.word text] text rest :=
  (rewrites_need (k := .word) rfl).map Token.loneWord

end Signs

theorem Rewrites.captured (h : Rewrites p tokens written a rest) :
    Rewrites (captured p) tokens [] (a, written) rest := by
  intro before stray
  have hp := h [] stray
  rw [List.nil_append] at hp
  change Except.bind (p ⟨tokens ++ rest, [], stray⟩) _ = _
  rw [hp, List.append_nil]
  rfl

theorem Rewrites.rawIf {test : α → Bool} (h : Rewrites p tokens written a rest) (htest : test a = false) :
    Rewrites (rawIf test p) tokens written a rest := by
  intro before stray
  have hp := h.captured before stray
  change Except.bind (Grammar.captured p _) _ = _
  rw [hp, List.append_nil]
  change (do write (if test a then _ else written); return a : Grammar α) _ = _
  rw [htest]
  rfl

/-- A group is written anew as what is written for all that stands in it. -/
theorem Rewrites.within {delimiter : Delimiter} {inner : List Token} (h : Rewrites p inner written a []) :
    Rewrites (within delimiter p) [.group delimiter inner] [.group delimiter written] a rest := by
  have hsplit : (Kind.group delimiter).split ([.group delimiter inner] ++ rest) =
      some ([.group delimiter inner], rest) := by simp [Kind.split]
  intro before stray
  have hneed := rewrites_need hsplit before stray
  have hp := h [] stray
  rw [List.append_nil, List.nil_append] at hp
  change Except.bind (need (.group delimiter) _) _ = _
  rw [hneed]
  change Except.bind (p ⟨inner, [], stray⟩) _ = _
  rw [hp]
  change Except.ok (a, (⟨rest, (before ++ [Token.group delimiter inner]).dropLast ++
    [Token.group delimiter written], stray.or none⟩ : Cursor)) = _
  rw [List.dropLast_concat, Option.or_none]

theorem copies_anyGroup (delimiter : Delimiter) (inner rest : List Token) :
    Copies anyGroup [.group delimiter inner] delimiter rest := by
  have hsplit : (Kind.group delimiter).split ([.group delimiter inner] ++ rest) =
      some ([.group delimiter inner], rest) := by simp [Kind.split]
  refine Rewrites.after_look (copies_front _) ?_
  exact (rewrites_need hsplit).map fun _ => delimiter

theorem Rewrites.firstOf {choices : List (Choice α)} {choice : Choice α}
    (hfind : choices.find? (·.holds (tokens ++ rest)) = some choice)
    (h : Rewrites choice.read tokens written a rest) : Rewrites (firstOf choices) tokens written a rest := by
  refine Rewrites.after_look (copies_front _) ?_
  dsimp only [Token.afterMany]
  rwa [hfind]

/-- Pieces are copied one after another, as long as each shows that there is more. -/
theorem copies_repeatWhile {test : List Token → Bool} {q : Grammar Unit} {pieces : List (List Token)}
    (hpieces : ∀ piece ∈ pieces, piece ≠ [] ∧ ∀ rest, test (piece ++ rest) = true ∧ Copies q piece () rest)
    (hrest : test rest = false) : Copies (repeatWhile (sees test) q) pieces.flatten () rest := by
  have hwithin : ∀ n, pieces.flatten.length < n →
      Copies (whileWithin (sees test) q n) pieces.flatten () rest := by
    intro n hn
    induction pieces generalizing n with
    | nil =>
      obtain ⟨n, rfl⟩ := Nat.exists_eq_add_of_lt hn
      refine Rewrites.after_look (copies_sees test _) ?_
      simpa [hrest] using copies_pure () rest
    | cons piece pieces ih =>
      obtain ⟨⟨hne, hpiece⟩, hpieces⟩ := List.forall_mem_cons.1 hpieces
      obtain ⟨htest, hcopies⟩ := hpiece (pieces.flatten ++ rest)
      have hlength := List.length_pos_iff.2 hne
      rw [List.flatten_cons, List.length_append] at hn
      cases n with
      | zero => omega
      | succ n =>
        refine Rewrites.after_look (copies_sees test _) ?_
        rw [List.flatten_cons, List.append_assoc, htest]
        exact hcopies.bind (ih hpieces n (by omega))
  refine Rewrites.after_look (copies_front _) (hwithin _ ?_)
  rw [List.length_append]
  omega

section Chains

/-- Pieces with a sign between them, which may also stand after the last. -/
def chained (separator : String) (trailing : Bool) : List (List Token) → List Token
  | [] => []
  | piece :: pieces =>
    piece ++ ((if trailing || !pieces.isEmpty then Token.marks separator.toList else []) ++
      chained separator trailing pieces)

variable {separator : String} {trailing : Bool} {stops : List Token → Bool} {q : Grammar Unit}
  {piece tokens rest : List Token} {pieces : List (List Token)} {n count : Nat}

theorem copies_chain_stop (hstops : stops rest = true) (n : Nat) :
    Copies (chainWithin stops separator q n) [] 0 rest := by
  cases n with
  | zero => exact copies_pure 0 rest
  | succ n =>
    refine Rewrites.after_look (copies_sees stops _) ?_
    simpa [hstops] using copies_pure 0 rest

theorem copies_chain_more (hmore : stops (piece ++ (Token.marks separator.toList ++ (tokens ++ rest))) = false)
    (hpiece : Copies q piece () (Token.marks separator.toList ++ (tokens ++ rest)))
    (h : Copies (chainWithin stops separator q n) tokens count rest) :
    Copies (chainWithin stops separator q (n + 1)) (piece ++ (Token.marks separator.toList ++ tokens))
      (count + 1) rest := by
  refine Rewrites.after_look (copies_sees stops _) ?_
  rw [List.append_assoc, List.append_assoc, hmore]
  refine Rewrites.bind (by simpa using hpiece) (Rewrites.bind (rewrites_accept (split_sign separator _)) ?_)
  exact h.map (· + 1)

theorem copies_chain_last (hmore : stops (piece ++ rest) = false) (hpiece : Copies q piece () rest)
    (hnone : (Kind.sign separator).split rest = none) :
    Copies (chainWithin stops separator q (n + 1)) piece 1 rest := by
  refine Rewrites.after_look (copies_sees stops _) ?_
  rw [hmore]
  refine hpiece.bind_look (Rewrites.after_look (copies_accept_none hnone) ?_)
  exact copies_pure 1 rest

theorem length_le_chained (hpieces : ∀ piece ∈ pieces, piece ≠ []) :
    pieces.length ≤ (chained separator trailing pieces).length := by
  induction pieces with
  | nil => exact Nat.le_refl 0
  | cons piece pieces ih =>
    obtain ⟨hne, hpieces⟩ := List.forall_mem_cons.1 hpieces
    have hpos := List.length_pos_iff.2 hne
    have hlength := ih hpieces
    simp only [chained, List.length_cons, List.length_append]
    omega

theorem copies_chainUntil {follows : List Token → Prop} (hstops : stops rest = true)
    (hnone : (Kind.sign separator).split rest = none) (hrest : follows rest)
    (hsign : ∀ rest, follows (Token.marks separator.toList ++ rest))
    (hpieces : ∀ piece ∈ pieces, piece ≠ [] ∧ ∀ rest, follows rest →
      stops (piece ++ rest) = false ∧ Copies q piece () rest) (trailing : Bool) :
    Copies (chainUntil stops separator q) (chained separator trailing pieces) pieces.length rest := by
  have hwithin : ∀ n, pieces.length ≤ n →
      Copies (chainWithin stops separator q n) (chained separator trailing pieces) pieces.length rest := by
    intro n hn
    induction pieces generalizing n with
    | nil => exact copies_chain_stop hstops n
    | cons piece pieces ih =>
      obtain ⟨⟨-, hpiece⟩, hpieces⟩ := List.forall_mem_cons.1 hpieces
      obtain ⟨n, rfl⟩ : ∃ m, n = m + 1 := Nat.exists_eq_succ_of_ne_zero (by simp at hn; omega)
      have hread := ih hpieces n (Nat.le_of_succ_le_succ hn)
      cases hcomma : trailing || !pieces.isEmpty with
      | true =>
        obtain ⟨hmore, hcopies⟩ := hpiece _ (hsign _)
        rw [chained, if_pos hcomma]
        exact copies_chain_more hmore hcopies hread
      | false =>
        obtain ⟨hmore, hcopies⟩ := hpiece rest hrest
        obtain ⟨htrailing, hnil⟩ := Bool.or_eq_false_iff.1 hcomma
        obtain rfl : pieces = [] := by simpa using hnil
        simpa [chained, htrailing] using copies_chain_last (n := n) hmore hcopies hnone
  refine Rewrites.after_look (copies_front _) (hwithin _ ?_)
  have hlength : pieces.length ≤ (chained separator trailing pieces).length :=
    length_le_chained fun piece h => (hpieces piece h).1
  rw [List.length_append]
  omega

end Chains

end SourceMacros.Grammar

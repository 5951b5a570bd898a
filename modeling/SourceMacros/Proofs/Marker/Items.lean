import SourceMacros.Proofs.Grammar.Paths

/-! Unit structs with plain attributes, a visibility and a clause of bounds on paths: they are read, and written
anew token by token but for an empty list of parameters and an empty clause, which are left out,
`Item.ofTokens_unitStruct`. -/

namespace SourceMacros

namespace Grammar

section Attributes

variable {parts : Parts} {rest : List Token}

/-- What follows the path of a plain attribute. -/
inductive AttributeTail : List Token → Prop
  | nil : AttributeTail []
  | group (delimiter : Delimiter) (inner : List Token) : AttributeTail [.group delimiter inner]
  | value (text : String) : AttributeTail [.lone '=', .literal text]

theorem copies_plainAttribute {p : BarePath} (hp : p.Valid) {tail : List Token} (ht : AttributeTail tail) :
    Copies (bracketedAttribute parts) [.group .bracket (p.tokens ++ tail)] () rest := by
  have hunsafe : (Kind.keyword "unsafe").split (p.tokens ++ (tail ++ [])) = none :=
    hp.split_keyword _ (by decide)
  have hpath : isSign "::" (tail ++ []) = false := by cases ht <;> rfl
  refine Rewrites.within (Rewrites.after_look (copies_accept_none ?_) ?_)
  · simpa using hunsafe
  refine Rewrites.bind (copies_barePath hp hpath) ?_
  refine Rewrites.after_look (copies_sees _ _) ?_
  cases ht with
  | nil => exact Rewrites.after_look (copies_accept_none rfl) (copies_pure () [])
  | group delimiter inner =>
    have hgroup : (isParenthesized ([.group delimiter inner] ++ []) || isBracketed ([.group delimiter inner] ++ []) ||
        isBraced ([.group delimiter inner] ++ [])) = true := by cases delimiter <;> rfl
    rw [hgroup]
    exact (copies_anyGroup delimiter inner []).map fun _ => ()
  | value text =>
    have hsign : Copies (acceptSign "=") [.lone '='] true ([.literal text] ++ []) :=
      rewrites_accept (split_sign "=" _)
    refine hsign.bind (Rewrites.after_look (copies_front _) ?_)
    have hliteral : Copies (need .literal) [.literal text] [.literal text] [] := rewrites_need rfl
    exact hliteral.map fun _ => ()

def IsPlainAttribute (tokens : List Token) : Prop :=
  ∃ p tail, BarePath.Valid p ∧ AttributeTail tail ∧ tokens = [.lone '#', .group .bracket (p.tokens ++ tail)]

theorem copies_attributes {pieces : List (List Token)} (h : ∀ piece ∈ pieces, IsPlainAttribute piece)
    (hrest : isSign "#" rest = false) :
    Copies (attributes parts) pieces.flatten (isSign "#" (pieces.flatten ++ rest)) rest := by
  refine Rewrites.after_look (copies_peek _ _) ?_
  have hpieces : ∀ piece ∈ pieces, piece ≠ [] ∧ ∀ rest, isSign "#" (piece ++ rest) = true ∧
      Copies (do sign "#"; bracketedAttribute parts) piece () rest := by
    intro piece hpiece
    obtain ⟨p, tail, hp, ht, rfl⟩ := h piece hpiece
    refine ⟨by simp, fun rest => ⟨rfl, ?_⟩⟩
    exact (copies_sign "#" _).bind (copies_plainAttribute hp ht)
  exact (copies_repeatWhile hpieces hrest).bind_look (copies_pure _ rest)

end Attributes

section Visibility

variable {rest : List Token}

/-- Whom a struct is visible to. -/
inductive IsVisibility : List Token → Prop
  | none : IsVisibility []
  | all : IsVisibility [.word "pub"]
  | scope {word : String} (h : word ∈ ["crate", "self", "super"]) :
      IsVisibility [.word "pub", .group .parenthesis [.word word]]
  | path {p : BarePath} (hp : p.Valid) :
      IsVisibility [.word "pub", .group .parenthesis (.word "in" :: p.tokens)]

theorem copies_visibility {tokens : List Token} (h : IsVisibility tokens) :
    ∃ isPublic, Copies visibility tokens isPublic (.word "struct" :: rest) := by
  have hpub (tail : List Token) : Copies (acceptKeyword "pub") [.word "pub"] true tail :=
    rewrites_accept (split_keyword "pub" tail)
  cases h with
  | none => exact ⟨false, Rewrites.after_look (copies_accept_none rfl) (copies_pure false _)⟩
  | all =>
    refine ⟨true, (hpub _).bind_look ?_⟩
    exact Rewrites.after_look (copies_front _) (copies_pure true _)
  | @scope word hword =>
    have hscope : isScope [.word word] = true := by simpa [isScope] using hword
    refine ⟨true, (hpub _).bind (Rewrites.after_look (copies_front _) ?_)⟩
    change Rewrites (if isScope [.word word] = true then _ else _) _ _ _ _
    rw [if_pos hscope]
    exact (copies_anyGroup .parenthesis [.word word] _).map fun _ => true
  | @path p hp =>
    have hin : Copies (do keyword "in"; barePath) (.word "in" :: p.tokens) () [] :=
      (copies_keyword "in" _).bind (copies_barePath hp rfl)
    refine ⟨true, (hpub _).bind (Rewrites.after_look (copies_front _) ?_)⟩
    have hscope : isScope (.word "in" :: p.tokens) = false := by
      obtain ⟨isRooted, first, others⟩ := p
      cases isRooted <;> rfl
    change Rewrites (if isScope (.word "in" :: p.tokens) = true then _ else _) _ _ _ _
    rw [if_neg (by simp [hscope])]
    exact (Rewrites.within hin).map fun _ => true

theorem IsVisibility.isSign_hash {tokens : List Token} (h : IsVisibility tokens) (rest : List Token) :
    isSign "#" (tokens ++ (.word "struct" :: rest)) = false := by
  cases h <;> rfl

end Visibility

section Clauses

/-- A type and the traits that it has to have, all of them paths without arguments. -/
structure PlainPredicate where
  type : BarePath
  bounds : List BarePath
  hasPlus : Bool
  valid : ∀ p ∈ type :: bounds, p.Valid

structure PlainClause where
  predicates : List PlainPredicate
  hasComma : Bool

def PlainPredicate.tokens (q : PlainPredicate) : List Token :=
  q.type.tokens ++ (.lone ':' :: chained "+" q.hasPlus (q.bounds.map BarePath.tokens))

def PlainClause.tokens (c : PlainClause) : List Token :=
  .word "where" :: chained "," c.hasComma (c.predicates.map PlainPredicate.tokens)

def EndsBounds (rest : List Token) : Prop :=
  Closes rest ∧ endsClause isColon rest = true ∧ (Kind.sign "+").split rest = none

variable {parts parts' : Parts} {rest : List Token}

theorem BarePath.not_endsClause (p : BarePath) (rest : List Token) :
    endsClause isColon (p.tokens ++ rest) = false := by
  obtain ⟨isRooted, first, others⟩ := p
  cases isRooted <;> rfl

theorem copies_bounds (hbound : parts.bound false true = bound parts' false true) (q : PlainPredicate)
    (hrest : EndsBounds rest) : Copies (chainUntil (endsClause isColon) "+" (markableBound parts))
      (chained "+" q.hasPlus (q.bounds.map BarePath.tokens)) (q.bounds.map BarePath.tokens).length rest := by
  obtain ⟨hcloses, hends, hplus⟩ := hrest
  obtain ⟨-, hbounds⟩ := List.forall_mem_cons.1 q.valid
  have hsign : ∀ rest, Closes (Token.marks "+".toList ++ rest) := fun rest => .mk (c := '+') (by simp) rest
  refine copies_chainUntil hends hplus hcloses hsign (fun piece hpiece => ?_) q.hasPlus
  obtain ⟨b, hb, rfl⟩ := List.mem_map.1 hpiece
  refine ⟨b.tokens_ne_nil, fun rest hrest => ⟨b.not_endsClause rest, ?_⟩⟩
  rw [markableBound, hbound]
  exact (copies_bound parts' (hbounds b hb) hrest).discard

theorem copies_predicate (htype : parts.type true = type parts' true)
    (hbound : parts.bound false true = bound parts' false true) (q : PlainPredicate) (hrest : EndsBounds rest) :
    Copies (predicate parts) q.tokens () rest := by
  have hpath := (List.forall_mem_cons.1 q.valid).1
  have hcolon : Copies (do sign ":"; let _ ← chainUntil (endsClause isColon) "+" (markableBound parts))
      (.lone ':' :: chained "+" q.hasPlus (q.bounds.map BarePath.tokens)) () rest :=
    (copies_sign ":" _).bind ((copies_bounds hbound q hrest).map fun _ => ())
  obtain ⟨shape, htypes⟩ := copies_type parts' hpath
    (chained "+" q.hasPlus (q.bounds.map BarePath.tokens) ++ rest)
  have hlifetime : isLifetime (q.tokens ++ rest) = false := by
    rw [PlainPredicate.tokens, List.append_assoc]
    exact q.type.not_lifetime _
  have hbinder : Copies (binder parts) [] false (q.tokens ++ rest) := by
    refine Rewrites.after_look (copies_accept_none ?_) (copies_pure false _)
    rw [PlainPredicate.tokens, List.append_assoc]
    exact hpath.split_keyword _ (by decide)
  refine Rewrites.after_look (copies_sees _ _) ?_
  rw [hlifetime, Bool.false_and]
  refine Rewrites.after_look hbinder ?_
  rw [htype]
  exact htypes.bind hcolon

theorem PlainPredicate.not_startsParameters (q : PlainPredicate) (rest : List Token) :
    startsParameters (q.tokens ++ rest) = false := by
  obtain ⟨⟨isRooted, first, others⟩, bounds, hasPlus, valid⟩ := q
  cases isRooted <;> rfl

theorem PlainPredicate.not_endsClause (q : PlainPredicate) (rest : List Token) :
    endsClause isColon (q.tokens ++ rest) = false := by
  rw [PlainPredicate.tokens, List.append_assoc, BarePath.not_endsClause]

theorem PlainPredicate.tokens_ne_nil (q : PlainPredicate) : q.tokens ≠ [] := by
  simp [PlainPredicate.tokens]

/-- The bounds are copied in front of the end, and a clause without any is left out. -/
theorem rewrites_whereClause (htype : parts.type true = type parts' true)
    (hbound : parts.bound false true = bound parts' false true) (c : PlainClause) :
    Rewrites (whereClause parts) c.tokens (if c.predicates.isEmpty then [] else c.tokens) true [.lone ';'] := by
  have hends : ∀ t ∈ [',', ';'], ∀ rest, EndsBounds (.lone t :: rest) := by
    intro t ht rest
    simp only [List.mem_cons, List.not_mem_nil, or_false] at ht
    rcases ht with rfl | rfl <;> exact ⟨.mk (by simp) rest, rfl, rfl⟩
  have hchain : Copies (chainUntil (endsClause isColon) "," (predicate parts))
      (chained "," c.hasComma (c.predicates.map PlainPredicate.tokens))
      (c.predicates.map PlainPredicate.tokens).length [.lone ';'] := by
    have hsign : ∀ rest, EndsBounds (Token.marks ",".toList ++ rest) := hends ',' (by simp)
    refine copies_chainUntil rfl rfl (hends ';' (by simp) []) hsign (fun piece hpiece => ?_) c.hasComma
    obtain ⟨q, hq, rfl⟩ := List.mem_map.1 hpiece
    exact ⟨q.tokens_ne_nil, fun rest hrest => ⟨q.not_endsClause rest, copies_predicate htype hbound q hrest⟩⟩
  have hparameters : startsParameters
      (chained "," c.hasComma (c.predicates.map PlainPredicate.tokens) ++ [Token.lone ';']) = false := by
    cases c.predicates with
    | nil => rfl
    | cons q qs =>
      rw [List.map_cons, chained, List.append_assoc]
      exact q.not_startsParameters _
  have hclause : Copies (do
      keyword "where"
      if ← sees startsParameters then refuse .genericWhere
      chainUntil (endsClause isColon) "," (predicate parts)) c.tokens c.predicates.length [.lone ';'] := by
    refine (copies_keyword "where" _).bind (Rewrites.after_look (copies_sees _ _) ?_)
    rw [hparameters]
    simpa using hchain
  have hwrite : Rewrites (do
      if c.predicates.length ≠ 0 then write c.tokens
      return true) [] (if c.predicates.isEmpty then [] else c.tokens) true [.lone ';'] := by
    cases hpredicates : c.predicates with
    | nil => exact copies_pure true _
    | cons q qs => exact (rewrites_write c.tokens _).bind_look (copies_pure true _)
  refine Rewrites.after_look (copies_peek _ _) ?_
  exact hclause.captured.bind_write hwrite

end Clauses

section Structs

variable {parts parts' parts'' : Parts} {rest : List Token} {struct : String}

def emptyParameters (given : Bool) : List Token := if given then [.lone '<', .lone '>'] else []

def clauseTokens : Option PlainClause → List Token
  | none => []
  | some c => c.tokens

/-- The clause, if it holds any bounds. -/
def heldClause (clause : Option PlainClause) : Option PlainClause := clause.filter fun c => !c.predicates.isEmpty

theorem rewrites_parameters (given : Bool) (hrest : isSign "<" rest = false) :
    Rewrites (parameters parts) (emptyParameters given) [] false rest := by
  cases given with
  | false =>
    refine Rewrites.after_look (copies_peek _ _) ?_
    change Rewrites (if isSign "<" rest = true then _ else _) _ _ _ _
    rw [hrest]
    exact copies_pure false rest
  | true =>
    have hentries : Copies (entries (parameter parts)) [] [] (.lone '>' :: rest) :=
      Rewrites.after_look (copies_front _) (Rewrites.after_look (copies_peek _ _) (copies_pure [] _))
    have hlist : Copies (do sign "<"; let entries ← entries (parameter parts); sign ">"; return entries)
        [.lone '<', .lone '>'] [] rest := by
      refine (copies_sign "<" _).bind (Rewrites.after_look hentries ?_)
      exact (copies_sign ">" _).map fun _ => []
    have hangled : Rewrites (angled true (entries (parameter parts))) [.lone '<', .lone '>'] [] 0 rest := by
      refine hlist.captured.bind_look ?_
      exact copies_pure 0 rest
    refine Rewrites.after_look (copies_peek _ _) ?_
    exact hangled.map fun count => decide (count ≠ 0)

theorem copies_semicolon : Copies (do sign ";"; return FieldShape.unit) [.lone ';'] .unit [] :=
  (copies_sign ";" []).bind_look (copies_pure _ _)

section Ends

variable (htype : parts.type true = type parts' true) (hbound : parts.bound false true = bound parts' false true)

include htype hbound

theorem rewrites_unitEnd (clause : Option PlainClause) : Rewrites (structBody parts)
    (clauseTokens clause ++ [Token.lone ';']) (clauseTokens (heldClause clause) ++ [Token.lone ';']) .unit [] := by
  cases clause with
  | none => exact Rewrites.firstOf (by rfl) copies_semicolon
  | some c =>
    have hheld : clauseTokens (heldClause (some c)) = if c.predicates.isEmpty then [] else c.tokens := by
      cases hempty : c.predicates.isEmpty <;> simp [heldClause, clauseTokens, Option.filter, hempty]
    rw [hheld]
    refine Rewrites.firstOf (by rfl) ?_
    refine (rewrites_whereClause htype hbound c).bind ?_
    exact Rewrites.firstOf (by rfl) copies_semicolon

theorem rewrites_structItem (hstruct : struct ∉ Token.keywords) (hasParameters : Bool)
    (clause : Option PlainClause) :
    Rewrites (structItem parts)
      (.word "struct" :: .word struct :: (emptyParameters hasParameters ++ (clauseTokens clause ++ [Token.lone ';'])))
      (.word "struct" :: .word struct :: (clauseTokens (heldClause clause) ++ [Token.lone ';']))
      (.struct struct false .unit) [] := by
  have hsign : isSign "<" (clauseTokens clause ++ [Token.lone ';'] ++ []) = false := by
    cases clause <;> rfl
  refine (copies_keyword "struct" _).bind ((copies_name hstruct _).bind ?_)
  refine (rewrites_parameters hasParameters hsign).bind ?_
  exact (rewrites_unitEnd htype hbound clause).bind_look (copies_pure _ _)

end Ends

/-- A unit struct with plain attributes. It may have a clause of bounds, and a list of parameters that is empty. -/
structure UnitStruct where
  attributes : List (List Token)
  visibility : List Token
  name : String
  hasParameters : Bool
  clause : Option PlainClause
  plain : ∀ piece ∈ attributes, IsPlainAttribute piece
  visible : IsVisibility visibility
  named : name ∉ Token.keywords

namespace UnitStruct

def tokens (u : UnitStruct) : List Token :=
  u.attributes.flatten ++ (u.visibility ++ (Token.word "struct" :: .word u.name ::
    (emptyParameters u.hasParameters ++ (clauseTokens u.clause ++ [Token.lone ';']))))

/-- The struct without what is empty. -/
def bare (u : UnitStruct) : UnitStruct := { u with hasParameters := false, clause := heldClause u.clause }

theorem rewrites_markedItem (u : UnitStruct) (hitem : parts''.item = item parts)
    (htype : parts.type true = type parts' true) (hbound : parts.bound false true = bound parts' false true) :
    Rewrites (markedItem parts'') u.tokens u.bare.tokens (.struct u.name false .unit) [] := by
  have hfind (isPublic : Bool) (rest : List Token) : (itemChoices parts isPublic).find?
      (·.holds (.word "struct" :: rest)) = some (.of [.keyword "struct"] (structItem parts)) := rfl
  have hsign := u.visible.isSign_hash (.word u.name ::
    (emptyParameters u.hasParameters ++ (clauseTokens u.clause ++ [Token.lone ';'])))
  obtain ⟨isPublic, hcopies⟩ := copies_visibility u.visible
  refine Rewrites.rawIf ?_ (by simp)
  refine (copies_attributes u.plain (by simpa using hsign)).bind ?_
  rw [hitem]
  refine hcopies.bind (Rewrites.firstOf (hfind isPublic _) ?_)
  exact rewrites_structItem htype hbound u.named u.hasParameters u.clause

end UnitStruct

end Structs

end Grammar

theorem Item.ofTokens_of_rewrites {tokens written : List Token} {shape : Grammar.ItemShape}
    (h : ∀ n, Grammar.Rewrites (Grammar.markedItem (Grammar.partsWithin (n + 3))) tokens written shape []) :
    Item.ofTokens tokens = .ok ⟨shape, written⟩ := by
  obtain ⟨n, hn⟩ : ∃ n, Grammar.depthOf tokens = n + 3 :=
    ⟨Grammar.depthOf tokens - 3, by rw [Grammar.depthOf]; omega⟩
  have hread := h n [] none
  rw [List.append_nil, List.nil_append, ← hn] at hread
  rw [Item.ofTokens]
  change Except.bind (Grammar.markedItem _ ⟨tokens, [], none⟩) _ = _
  rw [hread]
  rfl

/-- A unit struct is read, and written anew without what is empty. -/
theorem Item.ofTokens_unitStruct (u : Grammar.UnitStruct) :
    Item.ofTokens u.tokens = .ok ⟨.struct u.name false .unit, u.bare.tokens⟩ :=
  Item.ofTokens_of_rewrites fun _ => u.rewrites_markedItem rfl rfl rfl

end SourceMacros

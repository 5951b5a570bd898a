import SourceMacros.Marker.Arguments
import SourceMacros.Proofs.Results
import Mathlib.Data.List.Forall2

/-! The clauses that arguments are made of, each a key, an equals sign and a value. Elements are read just
where clauses spell the tokens that say them, `elements_eq_ok`, and the first clause that says nothing is
reported, `elements_of_fault`. -/

namespace SourceMacros.Marker

/-- A key, an equals sign and a token for the value. -/
structure Clause where
  key : String
  joined : Bool
  value : Token

namespace Clause

def tokens (c : Clause) : List Token := [.word c.key, .mark '=' c.joined, c.value]

/-- What a clause says, or why it says nothing. -/
inductive Says : Clause → Except MarkerError Element → Prop
  | name {joined : Bool} {value : Token} {text : String} (htext : value.stringValue? = some text)
      (hname : Text.isIdentifier text = true) : Says ⟨"name", joined, value⟩ (.ok (.name value))
  | role (joined : Bool) (role : Role) : Says ⟨"role", joined, .word role.name⟩ (.ok (.role role))
  | keyword {key : String} (joined : Bool) (value : Token) (hkey : key ∈ Token.keywords) :
      Says ⟨key, joined, value⟩ (.error (.grammar (.keyword key)))
  | unknownKey {key : String} (joined : Bool) (value : Token) (hkey : key ∉ Token.keywords)
      (hname : key ≠ "name") (hrole : key ≠ "role") : Says ⟨key, joined, value⟩ (.error .unknownKey)
  | noString (joined : Bool) {value : Token} (htext : value.stringValue? = none) :
      Says ⟨"name", joined, value⟩ (.error (.grammar (.expected "string literal")))
  | invalidName (joined : Bool) {value : Token} {text : String} (htext : value.stringValue? = some text)
      (hname : Text.isIdentifier text = false) : Says ⟨"name", joined, value⟩ (.error .invalidName)
  | noWord (joined : Bool) {value : Token} (hvalue : ∀ word, value ≠ .word word) :
      Says ⟨"role", joined, value⟩ (.error (.grammar (.expected "identifier")))
  | keywordRole (joined : Bool) {word : String} (hword : word ∈ Token.keywords) :
      Says ⟨"role", joined, .word word⟩ (.error (.grammar (.keyword word)))
  | unknownRole (joined : Bool) {word : String} (hword : word ∉ Token.keywords)
      (hrole : ∀ role : Role, role.name ≠ word) : Says ⟨"role", joined, .word word⟩ (.error .unknownRole)

theorem exists_said (c : Clause) : ∃ said, c.Says said := by
  obtain ⟨key, joined, value⟩ := c
  by_cases hkey : key ∈ Token.keywords
  · exact ⟨_, .keyword joined value hkey⟩
  by_cases hname : key = "name"
  · subst hname
    cases htext : value.stringValue? with
    | none => exact ⟨_, .noString joined htext⟩
    | some text =>
      cases hvalid : Text.isIdentifier text with
      | true => exact ⟨_, .name htext hvalid⟩
      | false => exact ⟨_, .invalidName joined htext hvalid⟩
  by_cases hrole : key = "role"
  · subst hrole
    by_cases hvalue : ∃ word, value = .word word
    · obtain ⟨word, rfl⟩ := hvalue
      by_cases hword : word ∈ Token.keywords
      · exact ⟨_, .keywordRole joined hword⟩
      by_cases hknown : ∃ role : Role, role.name = word
      · obtain ⟨role, rfl⟩ := hknown
        exact ⟨_, .role joined role⟩
      · exact ⟨_, .unknownRole joined hword (not_exists.1 hknown)⟩
    · exact ⟨_, .noWord joined (not_exists.1 hvalue)⟩
  · exact ⟨_, .unknownKey joined value hkey hname hrole⟩

end Clause

section Reading

variable {tokens rest : List Token}

theorem identifier_word (word : String) : identifier (.word word :: rest) =
    if word ∈ Token.keywords then .error (.grammar (.keyword word)) else .ok (word, rest) := by
  by_cases hword : word ∈ Token.keywords
  · simp [identifier, need, Kind.split, hword, Kind.absence, bind, Except.bind]
  · simp [identifier, need, Kind.split, hword, Token.loneWord, bind, Except.bind, pure, Except.pure]

theorem identifier_ne_word {t : Token} (h : ∀ word, t ≠ .word word) :
    identifier (t :: rest) = .error (.grammar (.expected "identifier")) := by
  cases t with
  | word word => exact absurd rfl (h word)
  | mark sign joined => rfl
  | literal text => rfl
  | group delimiter inner => rfl

theorem identifier_eq_ok {word : String} : identifier tokens = .ok (word, rest) ↔
    tokens = .word word :: rest ∧ word ∉ Token.keywords := by
  constructor
  · intro h
    cases tokens with
    | nil => cases h
    | cons t tokens =>
      by_cases ht : ∃ word, t = .word word
      · obtain ⟨w, rfl⟩ := ht
        rw [identifier_word] at h
        split at h
        · cases h
        · cases h
          exact ⟨rfl, by assumption⟩
      · rw [identifier_ne_word (not_exists.1 ht)] at h
        cases h
  · rintro ⟨rfl, hword⟩
    rw [identifier_word, if_neg hword]

theorem afterSign_single {c : Char} :
    Token.afterSign [c] tokens = some rest ↔ ∃ joined, tokens = .mark c joined :: rest := by
  cases tokens with
  | nil => simp [Token.afterSign]
  | cons t tokens =>
    cases t with
    | mark d joined => by_cases hd : d = c <;> simp [Token.afterSign, hd]
    | word text => simp [Token.afterSign]
    | literal text => simp [Token.afterSign]
    | group delimiter inner => simp [Token.afterSign]

theorem sign_eq_ok {text : String} {c : Char} (htext : text.toList = [c]) :
    sign text tokens = .ok rest ↔ ∃ joined, tokens = .mark c joined :: rest := by
  rw [← afterSign_single]
  simp only [sign, need, Kind.split, htext]
  cases Token.afterSign [c] tokens <;> simp [bind, Except.bind, pure, Except.pure]

theorem sign_mark {text : String} {c : Char} (htext : text.toList = [c]) (joined : Bool) :
    sign text (.mark c joined :: rest) = .ok rest := (sign_eq_ok htext).2 ⟨joined, rfl⟩

theorem find_role (role : Role) : Role.all.find? (·.name == role.name) = some role := by
  cases role <;> decide

theorem find_role_eq_none {word : String} (h : ∀ role : Role, role.name ≠ word) :
    Role.all.find? (·.name == word) = none := by
  simpa using fun role _ => h role

theorem name_not_mem_keywords (role : Role) : role.name ∉ Token.keywords := by
  cases role <;> decide

theorem element_clause (c : Clause) : element (c.tokens ++ rest) =
    if c.key ∈ Token.keywords then .error (.grammar (.keyword c.key))
    else if c.key = "name" then nameElement (c.value :: rest)
    else if c.key = "role" then roleElement (c.value :: rest)
    else .error .unknownKey := by
  rw [Clause.tokens, List.cons_append, element, identifier_word]
  split
  case isTrue => rfl
  case isFalse =>
    have hsign : sign "=" (.mark '=' c.joined :: c.value :: rest) = .ok (c.value :: rest) :=
      sign_mark (by decide) c.joined
    dsimp only [bind, Except.bind, List.cons_append, List.nil_append]
    rw [hsign]
    rfl

/-- What a clause says is read off it, whatever follows. -/
theorem element_of_said {c : Clause} {said : Except MarkerError Element} (h : c.Says said) :
    element (c.tokens ++ rest) = said.map (·, rest) := by
  have hname : "name" ∉ Token.keywords := by decide
  have hrole : "role" ∉ Token.keywords := by decide
  have hne : "role" ≠ "name" := by decide
  rw [element_clause]
  cases h with
  | name htext hvalid => simp [hname, nameElement, htext, hvalid, Except.map]
  | role joined role =>
    simp [hrole, roleElement, identifier_word, name_not_mem_keywords, find_role, Except.map, bind, Except.bind,
      pure, Except.pure]
  | keyword joined value hkey => simp [hkey, Except.map]
  | unknownKey joined value hkey hname hrole => simp [hkey, hname, hrole, Except.map]
  | noString joined htext =>
    simp [hname, nameElement, htext, Kind.absence, GrammarError.shortfall, Kind.title, Except.map]
  | invalidName joined htext hvalid => simp [hname, nameElement, htext, hvalid, Except.map]
  | noWord joined hvalue =>
    simp [hrole, roleElement, identifier_ne_word hvalue, Except.map, bind, Except.bind]
  | keywordRole joined hword =>
    simp [hrole, roleElement, identifier_word, hword, Except.map, bind, Except.bind]
  | unknownRole joined hword hunknown =>
    simp [hrole, roleElement, identifier_word, hword, find_role_eq_none hunknown, Except.map, bind, Except.bind]
    rfl

theorem exists_says_of_element {e : Element} (h : element tokens = .ok (e, rest)) :
    ∃ c : Clause, c.Says (.ok e) ∧ tokens = c.tokens ++ rest := by
  obtain ⟨⟨key, tail⟩, hkey, hrest⟩ := except_bind_eq_ok.1 h
  obtain ⟨after, hsign, hvalue⟩ := except_bind_eq_ok.1 hrest
  obtain ⟨rfl, -⟩ := identifier_eq_ok.1 hkey
  obtain ⟨joined, rfl⟩ := (sign_eq_ok (c := '=') (by decide)).1 hsign
  cases after with
  | nil =>
    split at hvalue
    · cases hvalue
    · split at hvalue <;> cases hvalue
  | cons value after =>
    obtain ⟨said, hsaid⟩ := Clause.exists_said ⟨key, joined, value⟩
    have hclause : element ((⟨key, joined, value⟩ : Clause).tokens ++ after) = said.map (·, after) :=
      element_of_said hsaid
    obtain ⟨_, rfl, hpair⟩ := except_map_eq_ok.1 (hclause.symm.trans h)
    obtain ⟨rfl, rfl⟩ := Prod.mk.inj hpair
    exact ⟨_, hsaid, rfl⟩

end Reading

/-- The tokens are the clauses, with a comma after each, and what follows them. -/
inductive Leads : List Clause → List Token → List Token → Prop
  | nil (rest : List Token) : Leads [] rest rest
  | cons (c : Clause) (joined : Bool) {cs : List Clause} {tokens rest : List Token} (h : Leads cs tokens rest) :
      Leads (c :: cs) (c.tokens ++ .mark ',' joined :: tokens) rest

/-- The tokens are the clauses with commas between them; a comma may stand after the last. -/
def Spells (cs : List Clause) (tokens : List Token) : Prop :=
  Leads cs tokens [] ∨ ∃ init last, cs = init ++ [last] ∧ Leads init tokens last.tokens

/-- Each clause says an element. -/
abbrev Say (cs : List Clause) (es : List Element) : Prop :=
  List.Forall₂ (fun c e => c.Says (.ok e)) cs es

section Lists

variable {cs before : List Clause} {c : Clause} {es : List Element} {tokens rest : List Token} {n : Nat}

theorem Leads.of_append {after : List Clause} (h : Leads (before ++ after) tokens rest) :
    ∃ tail, Leads before tokens tail ∧ Leads after tail rest := by
  induction before generalizing tokens with
  | nil => exact ⟨tokens, .nil tokens, h⟩
  | cons c before ih =>
    cases h with
    | cons c joined h =>
      obtain ⟨tail, hbefore, hafter⟩ := ih h
      exact ⟨tail, .cons c joined hbefore, hafter⟩

theorem elementsWithin_nil : elementsWithin n [] = .ok [] := by
  cases n <;> rfl

section Steps

variable {e : Element}

theorem elementsWithin_step (h : element tokens = .ok (e, rest)) : elementsWithin (n + 1) tokens =
    if rest.isEmpty then .ok [e] else (sign "," rest).bind fun rest => (elementsWithin n rest).map (e :: ·) := by
  cases tokens with
  | nil => cases h
  | cons t tokens =>
    simp only [elementsWithin, h]
    cases rest with
    | nil => rfl
    | cons t rest =>
      dsimp only [bind, Except.bind, List.isEmpty_cons]
      cases sign "," (t :: rest) with
      | error error => rfl
      | ok rest => cases elementsWithin n rest <;> rfl

theorem elementsWithin_comma {joined : Bool} (h : element tokens = .ok (e, .mark ',' joined :: rest)) :
    elementsWithin (n + 1) tokens = (elementsWithin n rest).map (e :: ·) := by
  rw [elementsWithin_step h, sign_mark (by decide)]
  rfl

theorem elementsWithin_error {error : MarkerError} (hne : tokens ≠ []) (h : element tokens = .error error) :
    elementsWithin (n + 1) tokens = .error error := by
  cases tokens with
  | nil => exact absurd rfl hne
  | cons t tokens =>
    simp only [elementsWithin, h]
    rfl

end Steps

/-- The clauses that lead are read one after another, and then what follows them. -/
theorem elementsWithin_of_leads (h : Leads cs tokens rest) (hsay : Say cs es) (hn : tokens.length ≤ n) :
    ∃ m, rest.length ≤ m ∧ elementsWithin n tokens = (elementsWithin m rest).map (es ++ ·) := by
  induction h generalizing es n with
  | nil rest =>
    cases hsay
    refine ⟨n, hn, ?_⟩
    cases elementsWithin n rest <;> rfl
  | cons c joined hleads ih =>
    cases hsay with
    | cons hsaid hsay =>
      rename_i e es
      simp only [Clause.tokens, List.length_append, List.length_cons] at hn
      cases n with
      | zero => omega
      | succ n =>
        obtain ⟨m, hm, hrest⟩ := ih hsay (by omega : _ ≤ n)
        refine ⟨m, hm, ?_⟩
        rw [elementsWithin_comma (element_of_said hsaid), hrest]
        cases elementsWithin m _ <;> rfl

theorem Say.of_append {after : List Clause} (h : Say (before ++ after) es) :
    ∃ es₁ es₂, Say before es₁ ∧ Say after es₂ ∧ es = es₁ ++ es₂ := by
  induction before generalizing es with
  | nil => exact ⟨[], es, .nil, h, rfl⟩
  | cons c before ih =>
    cases h with
    | cons hsaid h =>
      obtain ⟨es₁, es₂, h₁, h₂, rfl⟩ := ih h
      exact ⟨_ :: es₁, es₂, .cons hsaid h₁, h₂, rfl⟩

theorem Say.exists_says {e : Element} (h : Say cs es) (hmem : e ∈ es) : ∃ c : Clause, c.Says (.ok e) := by
  induction h with
  | nil => cases hmem
  | cons hsaid _ ih =>
    rcases List.mem_cons.1 hmem with rfl | hmem
    · exact ⟨_, hsaid⟩
    · exact ih hmem

theorem elements_of_spells (h : Spells cs tokens) (hsay : Say cs es) : elements tokens = .ok es := by
  rcases h with h | ⟨init, last, rfl, h⟩
  · obtain ⟨m, -, hread⟩ := elementsWithin_of_leads h hsay (Nat.le_refl tokens.length)
    rw [elements, hread, elementsWithin_nil]
    simp [Except.map]
  · obtain ⟨es₁, es₂, hinit, hlast, rfl⟩ := hsay.of_append
    obtain ⟨m, hm, hread⟩ := elementsWithin_of_leads h hinit (Nat.le_refl tokens.length)
    cases hlast with
    | cons hsaid hnil =>
      cases hnil
      cases m with
      | zero => simp [Clause.tokens] at hm
      | succ m =>
        have hfinal : element (last.tokens ++ []) = _ := element_of_said hsaid
        rw [List.append_nil] at hfinal
        rw [elements, hread, elementsWithin_step hfinal]
        rfl

/-- The first clause that says nothing is reported, whatever follows it. -/
theorem elements_of_fault {error : MarkerError} (h : Leads before tokens (c.tokens ++ rest))
    (hsay : Say before es) (hfault : c.Says (.error error)) : elements tokens = .error error := by
  obtain ⟨m, hm, hread⟩ := elementsWithin_of_leads h hsay (Nat.le_refl tokens.length)
  cases m with
  | zero => simp [Clause.tokens] at hm
  | succ m =>
    rw [elements, hread, elementsWithin_error (by simp [Clause.tokens]) (element_of_said hfault)]
    rfl

/-- Where elements are read, clauses spell the tokens that say them. -/
theorem exists_spells_of_elementsWithin (h : elementsWithin n tokens = .ok es) (hn : tokens.length ≤ n) :
    ∃ cs, Spells cs tokens ∧ Say cs es := by
  induction n generalizing tokens es with
  | zero =>
    obtain rfl := List.length_eq_zero_iff.1 (Nat.le_zero.1 hn)
    cases h
    exact ⟨[], .inl (.nil []), .nil⟩
  | succ n ih =>
    by_cases hnil : tokens = []
    · subst hnil
      cases h
      exact ⟨[], .inl (.nil []), .nil⟩
    cases hfirst : element tokens with
    | error error =>
      rw [elementsWithin_error hnil hfirst] at h
      cases h
    | ok first =>
      obtain ⟨e, rest⟩ := first
      obtain ⟨c, hsaid, rfl⟩ := exists_says_of_element hfirst
      rw [elementsWithin_step hfirst] at h
      split at h
      case isTrue hrest =>
        obtain rfl := List.isEmpty_iff.1 hrest
        cases h
        exact ⟨[c], .inr ⟨[], c, rfl, by simpa using Leads.nil c.tokens⟩, .cons hsaid .nil⟩
      case isFalse =>
        obtain ⟨tail, hcomma, htail⟩ := except_bind_eq_ok.1 h
        obtain ⟨es, hread, rfl⟩ := except_map_eq_ok.1 htail
        obtain ⟨joined, rfl⟩ := (sign_eq_ok (c := ',') (by decide)).1 hcomma
        simp only [Clause.tokens, List.length_append, List.length_cons] at hn
        obtain ⟨cs, hspells, hsay⟩ := ih hread (by omega)
        refine ⟨c :: cs, ?_, .cons hsaid hsay⟩
        rcases hspells with hleads | ⟨init, last, rfl, hleads⟩
        · exact .inl (.cons c joined hleads)
        · exact .inr ⟨c :: init, last, rfl, .cons c joined hleads⟩

theorem elements_eq_ok : elements tokens = .ok es ↔ ∃ cs, Spells cs tokens ∧ Say cs es := by
  constructor
  · exact fun h => exists_spells_of_elementsWithin h (Nat.le_refl tokens.length)
  · rintro ⟨cs, hspells, hsay⟩
    exact elements_of_spells hspells hsay

/-- Each clause says an element, or there is a first one that says nothing. -/
theorem say_or_fault (cs : List Clause) : (∃ es, Say cs es) ∨
    ∃ before c after es error, cs = before ++ c :: after ∧ Say before es ∧ c.Says (.error error) := by
  induction cs with
  | nil => exact .inl ⟨[], .nil⟩
  | cons c cs ih =>
    obtain ⟨said, hsaid⟩ := c.exists_said
    cases said with
    | error error => exact .inr ⟨[], c, cs, [], error, rfl, .nil, hsaid⟩
    | ok e =>
      rcases ih with ⟨es, hsay⟩ | ⟨before, d, after, es, error, rfl, hsay, hfault⟩
      · exact .inl ⟨e :: es, .cons hsaid hsay⟩
      · exact .inr ⟨c :: before, d, after, e :: es, error, rfl, .cons hsaid hsay, hfault⟩

theorem Spells.leads {after : List Clause} (h : Spells (before ++ c :: after) tokens) :
    ∃ rest, Leads before tokens (c.tokens ++ rest) := by
  rcases h with h | ⟨init, last, heq, h⟩
  · obtain ⟨tail, hbefore, hafter⟩ := h.of_append
    cases hafter with
    | cons c joined h => exact ⟨_, hbefore⟩
  · rcases List.eq_nil_or_concat after with rfl | ⟨after, d, rfl⟩
    · obtain ⟨rfl, hlast⟩ := List.append_inj' heq rfl
      obtain ⟨rfl, -⟩ := List.cons.inj hlast
      exact ⟨[], by simpa using h⟩
    · rw [List.concat_eq_append, ← List.cons_append, ← List.append_assoc] at heq
      obtain ⟨rfl, -⟩ := List.append_inj' heq rfl
      obtain ⟨tail, hbefore, hafter⟩ := h.of_append
      cases hafter with
      | cons c joined h => exact ⟨_, hbefore⟩

end Lists

section Pair

variable (c d : Clause)

def Clause.pairTokens (c d : Clause) : List Token := c.tokens ++ .lone ',' :: d.tokens

theorem spells_pair : Spells [c, d] (c.pairTokens d) := .inr ⟨[c], d, rfl, .cons c false (.nil _)⟩

def Clause.ofName (literal : String) : Clause := ⟨"name", false, .literal literal⟩

def Clause.ofRole (role : Role) : Clause := ⟨"role", false, .word role.name⟩

theorem say_pair {literal text : String} (htext : (Token.literal literal).stringValue? = some text)
    (hname : Text.isIdentifier text = true) (role : Role) :
    Say [.ofName literal, .ofRole role] [.name (.literal literal), .role role] :=
  .cons (.name htext hname) (.cons (.role false role) .nil)

end Pair

end SourceMacros.Marker

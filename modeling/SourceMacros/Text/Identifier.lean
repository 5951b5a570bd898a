/-! Identifiers of the source: an ASCII letter or underscore, then ASCII letters, digits and
underscores. -/

namespace SourceMacros.Text

def startsIdentifier (c : Char) : Bool := c.isAlpha || c == '_'

def continuesIdentifier (c : Char) : Bool := c.isAlphanum || c == '_'

def isIdentifierText : List Char → Bool
  | [] => false
  | c :: cs => startsIdentifier c && cs.all continuesIdentifier

def isIdentifier (text : String) : Bool := isIdentifierText text.toList

theorem continuesIdentifier_of_starts {c : Char} (h : startsIdentifier c = true) :
    continuesIdentifier c = true := by
  simp only [startsIdentifier, continuesIdentifier, Char.isAlphanum, Bool.or_eq_true] at h ⊢
  rcases h with h | h
  · exact .inl (.inl h)
  · exact .inr h

theorem exists_cons_of_isIdentifierText {w : List Char} (h : isIdentifierText w = true) :
    ∃ c t, w = c :: t ∧ startsIdentifier c = true ∧ ∀ k ∈ t, continuesIdentifier k = true := by
  cases w with
  | nil => cases h
  | cons c t =>
    rw [isIdentifierText, Bool.and_eq_true, List.all_eq_true] at h
    exact ⟨c, t, rfl, h⟩

theorem exists_cons_of_isIdentifier {name : String} (h : isIdentifier name = true) :
    ∃ c t, name.toList = c :: t ∧ startsIdentifier c = true := by
  obtain ⟨c, t, hname, hc, -⟩ := exists_cons_of_isIdentifierText h
  exact ⟨c, t, hname, hc⟩

theorem continuesIdentifier_of_mem {name : String} (h : isIdentifier name = true) {c : Char}
    (hc : c ∈ name.toList) : continuesIdentifier c = true := by
  obtain ⟨d, t, hname, hd, ht⟩ := exists_cons_of_isIdentifierText h
  rw [hname] at hc
  rcases List.mem_cons.1 hc with rfl | hc
  · exact continuesIdentifier_of_starts hd
  · exact ht c hc

end SourceMacros.Text

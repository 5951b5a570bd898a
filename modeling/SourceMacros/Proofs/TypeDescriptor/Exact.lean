import SourceMacros.Proofs.TypeDescriptor.Reading

/-! Descriptions of types are read exactly: the text that is written for a type is read as that type just
where its custom names are names and it is not too deep, `parse_render_eq_ok_iff`; a text is read as a type
just where it spells it, and any other is refused with a piece of it that is refused alone,
`parse_eq_ok_iff_spelled`. -/

namespace SourceMacros.TypeDescriptor

open Text

theorem parse_eq_ok_iff {text : String} {t : TypeDescriptor} :
    parse text = .ok t ↔ t.Spelled text.toList ∧ t.layers ≤ Nesting.limit := by
  rw [parse, parseWithin_eq_ok_iff, Nat.lt_succ_iff]

/-- The type that was read is read off what is written for it. -/
theorem parse_render_of_parse {text : String} {t : TypeDescriptor} (h : parse text = .ok t) :
    parse t.render = .ok t := by
  obtain ⟨hspelled, hlayers⟩ := parse_eq_ok_iff.1 h
  rw [parse_eq_ok_iff, toList_render]
  exact ⟨t.spelled_written hspelled.named, hlayers⟩

/-- What is written for a type is read as the type, just where its custom names are identifiers that no
primitive type has and it is not too deep. -/
theorem parse_render_eq_ok_iff (t : TypeDescriptor) :
    parse t.render = .ok t ↔ t.Named ∧ t.layers ≤ Nesting.limit := by
  rw [parse_eq_ok_iff, toList_render, spelled_written_iff]

example : parse (dictionary (optional (custom "A")) (array (primitive .uuid))).render =
    .ok (dictionary (optional (custom "A")) (array (primitive .uuid))) := by decide +kernel

/-- No text spells two types. -/
theorem Spelled.unique {t t' : TypeDescriptor} {s : List Char} (h : t.Spelled s) (h' : t'.Spelled s) :
    t = t' := by
  have hn := h.parseWithin_eq_ok [] (Nat.lt_succ_of_le (Nat.le_max_left t.layers t'.layers))
  have hn' := h'.parseWithin_eq_ok [] (Nat.lt_succ_of_le (Nat.le_max_right t.layers t'.layers))
  exact Except.ok.inj (hn.symm.trans hn')

theorem ofName_eq_error {s : List Char} {e : SyntaxError} (h : ofName s = .error e) :
    e = .invalidType (String.ofList s) := by
  unfold ofName at h
  split at h
  case h_1 => cases h
  case h_2 =>
    split at h
    case isTrue => cases h
    case isFalse => exact (Except.error.inj h).symm

/-- A text that has no blanks around it, is not in brackets, ends in no question mark and is no name. -/
structure Refused (s : List Char) : Prop where
  trimmed : trim s = s
  leaf : Leaf s
  unnamed : ofName s = .error (.invalidType (String.ofList s))

theorem Refused.parseWithin {s : List Char} (h : Refused s) (whole : List Char) (n : Nat) :
    parseWithin whole (n + 1) s = .error (.invalidType (String.ofList s)) := by
  rw [parseWithin_leaf (by rw [h.trimmed]; exact h.leaf), h.trimmed, h.unnamed]

/-- A text is refused as a whole for its depth, or for a piece that is no type. -/
theorem parseWithin_eq_error {whole s : List Char} {n : Nat} {e : SyntaxError}
    (h : parseWithin whole n s = .error e) :
    e = .invalidType (String.ofList (trim whole)) ∨
      ∃ p, p <:+: s ∧ Refused p ∧ e = .invalidType (String.ofList p) := by
  induction n generalizing s with
  | zero => exact .inl (Except.error.inj h).symm
  | succ n ih =>
    have hpiece : ∀ inner, inner <:+: trim s → parseWithin whole n inner = .error e →
        e = .invalidType (String.ofList (trim whole)) ∨
          ∃ p, p <:+: s ∧ Refused p ∧ e = .invalidType (String.ofList p) := by
      intro inner hinner herror
      refine (ih herror).imp_right fun ⟨p, hp, hrefused, he⟩ => ⟨p, ?_, hrefused, he⟩
      exact hp.trans (hinner.trans (isInfix_trim s))
    rcases parseWithin_cases s with ⟨key, value, htrim, heq⟩ | ⟨inner, htrim, heq⟩ |
      ⟨inner, htrim, heq⟩ | ⟨hleaf, heq⟩
    · have hkey : key <:+: trim s := ⟨['['], ':' :: (value ++ [']']), by simp [htrim]⟩
      have hvalue : value <:+: trim s := ⟨'[' :: (key ++ [':']), [']'], by simp [htrim]⟩
      rw [heq] at h
      rcases except_bind_eq_error.1 h with h | ⟨k, -, h⟩
      · exact hpiece key hkey h
      · rcases except_bind_eq_error.1 h with h | ⟨v, -, h⟩
        · exact hpiece value hvalue h
        · cases h
    · rw [heq] at h
      rcases except_bind_eq_error.1 h with h | ⟨w, -, h⟩
      · exact hpiece inner ⟨['['], [']'], by simp [htrim]⟩ h
      · cases h
    · rw [heq] at h
      rcases except_bind_eq_error.1 h with h | ⟨w, -, h⟩
      · exact hpiece inner ⟨[], ['?'], by simp [htrim]⟩ h
      · cases h
    · rw [heq] at h
      obtain rfl := ofName_eq_error h
      exact .inr ⟨trim s, isInfix_trim s, ⟨trim_trim s, hleaf, h⟩, rfl⟩

theorem parseWithin_whole {whole whole' : List Char} (h : trim whole = trim whole') (n : Nat)
    (s : List Char) : parseWithin whole n s = parseWithin whole' n s := by
  induction n generalizing s with
  | zero => rw [parseWithin, parseWithin, h]
  | succ n ih =>
    rcases parseWithin_cases s with ⟨key, value, -, heq⟩ | ⟨inner, -, heq⟩ | ⟨inner, -, heq⟩ |
      ⟨-, heq⟩
    · rw [heq, heq, ih, ih]
    · rw [heq, heq, ih]
    · rw [heq, heq, ih]
    · rw [heq, heq]

theorem parse_eq_error {text : String} {e : SyntaxError} (h : parse text = .error e) :
    ∃ p : String, e = .invalidType p ∧ p.toList <:+: text.toList ∧ trim p.toList = p.toList ∧
      parse p = .error (.invalidType p) := by
  rcases parseWithin_eq_error h with rfl | ⟨p, hp, hrefused, rfl⟩
  · refine ⟨_, rfl, ?_, ?_, ?_⟩
    · rw [String.toList_ofList]
      exact isInfix_trim _
    · rw [String.toList_ofList, trim_trim]
    · rw [parse, String.toList_ofList, parseWithin_whole (trim_trim _), parseWithin_congr (trim_trim _)]
      exact h
  · refine ⟨_, rfl, ?_, ?_, ?_⟩
    · rwa [String.toList_ofList]
    · rw [String.toList_ofList, hrefused.trimmed]
    · rw [parse, String.toList_ofList]
      exact hrefused.parseWithin _ _

/-- A text is read as a type just where it spells it within the layers allowed, and it spells one at most.
Every other text is refused with a trimmed piece that is refused by itself. -/
theorem parse_eq_ok_iff_spelled :
    (∀ (text : String) (t : TypeDescriptor),
      parse text = .ok t ↔ t.Spelled text.toList ∧ t.layers ≤ Nesting.limit) ∧
    (∀ (s : List Char) (t t' : TypeDescriptor), t.Spelled s → t'.Spelled s → t = t') ∧
    ∀ text : String, (∀ t : TypeDescriptor, ¬ (t.Spelled text.toList ∧ t.layers ≤ Nesting.limit)) →
      ∃ p : String, parse text = .error (.invalidType p) ∧ p.toList <:+: text.toList ∧
        trim p.toList = p.toList ∧ parse p = .error (.invalidType p) := by
  refine ⟨fun text t => parse_eq_ok_iff, fun s t t' h h' => h.unique h', fun text hnone => ?_⟩
  cases hparse : parse text with
  | ok t => exact absurd (parse_eq_ok_iff.1 hparse) (hnone t)
  | error e =>
    obtain ⟨p, rfl, hp⟩ := parse_eq_error hparse
    exact ⟨p, rfl, hp⟩

/-- A dictionary with blanks between its parts, and two lists with a colon between them. -/
theorem parse_eq_ok_iff_spelled_samples :
    parse " [ A ?:[Int]] " = .ok (.dictionary (.optional (.custom "A")) (.array (.primitive .int))) ∧
    (∃ t t' : TypeDescriptor, t.Spelled " [ A ?:[Int]] ".toList ∧ t'.Spelled " [ A ?:[Int]] ".toList ∧
      t = t') ∧
    ∃ p : String, parse "[A]: [B]" = .error (.invalidType p) ∧ p.toList <:+: "[A]: [B]".toList ∧
      trim p.toList = p.toList ∧ parse p = .error (.invalidType p) := by
  have hname : IsCustomName "A" := ⟨by decide, fun p => by cases p <;> decide⟩
  have hkey : Spelled (.optional (.custom "A")) " A ?".toList :=
    .optional (.custom hname blank_space blank_space) Blank.nil
  have hvalue : Spelled (.array (.primitive .int)) "[Int]".toList :=
    .array (.primitive .int Blank.nil Blank.nil) Blank.nil Blank.nil
  have hspelled : Spelled (.dictionary (.optional (.custom "A")) (.array (.primitive .int)))
      " [ A ?:[Int]] ".toList := .dictionary hkey hvalue blank_space blank_space
  have hread := (parse_eq_ok_iff_spelled.1 _ _).2 ⟨hspelled, by decide⟩
  have hrefused : parse "[A]: [B]" = .error (.invalidType "A]") := by decide +kernel
  refine ⟨hread, ⟨_, _, hspelled, hspelled, parse_eq_ok_iff_spelled.2.1 _ _ _ hspelled hspelled⟩,
    parse_eq_ok_iff_spelled.2.2 _ fun t ht => ?_⟩
  have hok := (parse_eq_ok_iff_spelled.1 _ t).2 ht
  rw [hrefused] at hok
  cases hok

end SourceMacros.TypeDescriptor

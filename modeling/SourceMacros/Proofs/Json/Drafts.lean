import SourceMacros.Json.Decode

/-! What is found in the draft of a complete value: the value, `value_draft`, and where it has a tag, what
its kind makes of the other members, `Decoded.ofDraft`. -/

namespace SourceMacros.Json

section Values

mutual

/-- A complete value is had again from its draft, if it nests no deeper than it may. -/
theorem value_draft : (j : Json) → {levels : Nat} → j.depth ≤ levels → j.draft.value levels = .ok j
  | .null, _, _ | .bool _, _, _ | .integer _, _, _ | .decimal _, _, _ | .string _, _, _ => by
    simp [draft, Draft.value]
  | .array items, levels + 1, h => by
    rw [draft, Draft.value, itemValues_drafts items (Nat.le_of_succ_le_succ h)]
    rfl
  | .object members, levels + 1, h => by
    rw [draft, Draft.value, memberValues_drafts members (Nat.le_of_succ_le_succ h)]
    rfl

theorem itemValues_drafts : (js : List Json) → {levels : Nat} → itemsDepth js ≤ levels →
    Draft.itemValues levels (itemDrafts js) = .ok js
  | [], _, _ => rfl
  | j :: js, levels, h => by
    obtain ⟨hj, hjs⟩ := Nat.max_le.1 h
    rw [itemDrafts, Draft.itemValues, value_draft j hj, itemValues_drafts js hjs]
    rfl

theorem memberValues_drafts : (js : List (String × Json)) → {levels : Nat} → membersDepth js ≤ levels →
    Draft.memberValues levels (memberDrafts js) = .ok js
  | [], _, _ => rfl
  | (name, j) :: js, levels, h => by
    obtain ⟨hj, hjs⟩ := Nat.max_le.1 h
    rw [memberDrafts, Draft.memberValues, value_draft j hj, memberValues_drafts js hjs]
    rfl

end

end Values

/-- An object whose first member is the tag, with the name of the given number, before the others. -/
structure Tagged (tag : String) (names : List String) (j : Json) (i : Nat)
    (others : List (String × Json)) : Prop where
  eq : ∃ name, j = .object ((tag, .string name) :: others) ∧ names.idxOf? name = some i
  untagged : ∀ m ∈ others, m.1 ≠ tag

namespace Tagged

variable {tag : String} {names : List String} {j : Json} {i : Nat} {others : List (String × Json)}

theorem depth_eq (h : Tagged tag names j i others) : j.depth = (object others).depth := by
  obtain ⟨name, rfl, -⟩ := h.eq
  simp [depth, membersDepth]

theorem tagged?_eq (h : Tagged tag names j i others) : j.tagged? tag names = some (i, .object others) := by
  obtain ⟨name, rfl, hname⟩ := h.eq
  have hfilter : others.filter (·.1 != tag) = others := by
    simpa [List.filter_eq_self] using h.untagged
  have hcount : others.countP (·.1 == tag) = 0 := by
    simpa [List.countP_eq_zero] using h.untagged
  simp [tagged?, lookUp, hcount, choice?, hname, hfilter]

theorem taggedMembers_eq (hothers : ∀ m ∈ others, m.1 ≠ tag) {levels : Nat}
    (hdepth : membersDepth others ≤ levels) (found : Option Nat) :
    Draft.taggedMembers tag names levels found (memberDrafts others) = .ok (found, others) := by
  induction others with
  | nil => rfl
  | cons m others ih =>
    obtain ⟨name, j⟩ := m
    obtain ⟨hj, hrest⟩ := Nat.max_le.1 hdepth
    obtain ⟨hname, hothers⟩ := List.forall_mem_cons.1 hothers
    have hne : name ≠ tag := hname
    rw [memberDrafts, Draft.taggedMembers.eq_def]
    simp only [if_neg hne, value_draft j hj, ih hothers hrest]
    rfl

theorem readTagged_eq (h : Tagged tag names j i others) {levels : Nat} (hdepth : j.depth ≤ levels) :
    j.draft.readTagged tag names levels = .ok (i, .object others) := by
  rw [h.depth_eq] at hdepth
  obtain ⟨name, rfl, hname⟩ := h.eq
  obtain ⟨levels, rfl⟩ := Nat.exists_eq_succ_of_ne_zero (Nat.ne_zero_of_lt hdepth)
  have hchoice : Draft.readChoice names (.string name) = .ok i := by
    rw [Draft.readChoice]
    change Draft.index names name = _
    rw [Draft.index, hname]
  have hothers : Draft.taggedMembers tag names levels (some i) (memberDrafts others) =
      .ok (some i, others) := taggedMembers_eq h.untagged (Nat.le_of_succ_le_succ hdepth) (some i)
  have hmembers : Draft.taggedMembers tag names levels none
      ((some tag, .string name) :: memberDrafts others) = .ok (some i, others) := by
    rw [Draft.taggedMembers.eq_def]
    simp only [if_true, hchoice]
    exact hothers
  rw [draft, memberDrafts, Draft.readTagged, draft]
  simp only [Draft.enter]
  change (Draft.taggedMembers tag names levels none _ >>= _) = _
  rw [hmembers]
  rfl

end Tagged

section Decoded

variable {α : Type} {tag : String} {names : List String} {ofKind? : Nat → Nat → Json → Option α} {j : Json}
  {a : α}

/-- A value with a tag, whose other members give `a` wherever they may nest as deep as they do. -/
def Decoded (tag : String) (names : List String) (ofKind? : Nat → Nat → Json → Option α) (j : Json)
    (a : α) : Prop :=
  ∃ i others, Tagged tag names j i others ∧
    ∀ n, (object others).depth ≤ n → ofKind? n i (.object others) = some a

theorem Decoded.within (h : Decoded tag names ofKind? j a) {n : Nat} (hn : j.depth ≤ n) :
    (j.tagged? tag names >>= fun p => ofKind? n p.1 p.2) = some a := by
  obtain ⟨i, others, htagged, hkind⟩ := h
  rw [htagged.depth_eq] at hn
  rw [htagged.tagged?_eq]
  exact hkind n hn

theorem Decoded.ofDraft (h : Decoded tag names ofKind? j a) {levels : Nat} (hlevels : j.depth ≤ levels) :
    (j.draft.readTagged tag names levels >>= fun p =>
      Draft.required (ofKind? p.2.depth p.1 p.2)) = .ok a := by
  obtain ⟨i, others, htagged, hkind⟩ := h
  rw [htagged.readTagged_eq hlevels]
  change Draft.required (ofKind? (object others).depth i (.object others)) = _
  rw [hkind _ (Nat.le_refl _)]
  rfl

end Decoded

section Lists

variable {α : Type} {encode : α → Json} {decode : Json → Option α}

theorem list?_map (h : ∀ a, decode (encode a) = some a) (as : List α) :
    (array (as.map encode)).list? decode = some as := by
  change (as.map encode).mapM decode = some as
  induction as with
  | nil => rfl
  | cons a as ih =>
    rw [List.map_cons, List.mapM_cons, h, ih]
    rfl

end Lists

section Records

variable {σ : Type} {fields : List (Draft.Field σ)} {levels : Nat}

theorem members_put (known' : σ) {seen : List String} {name : String} {d : Draft}
    {ds : List (Option String × Draft)} {known : σ} {field : Draft.Field σ}
    (hfield : fields.find? (·.name == name) = some field) (hseen : seen.contains name = false)
    (hput : field.put levels d known = .ok known') :
    Draft.members fields levels seen ((some name, d) :: ds) known =
      Draft.members fields levels (name :: seen) ds known' := by
  rw [Draft.members, hfield]
  simp only [hseen, Bool.false_eq_true, if_false, hput]
  rfl

theorem readRecord_object {lenient : Bool} {start known : σ} {ms : List (String × Json)}
    (h : Draft.members fields levels [] (memberDrafts ms) start = .ok known) :
    Draft.readRecord fields lenient start (levels + 1) (object ms).draft = .ok known := by
  rw [draft, Draft.readRecord]
  change (Draft.members fields levels [] (memberDrafts ms) start >>= _) = _
  rw [h]
  rfl

theorem readList_array {α : Type} {decode : Nat → Draft → Except Fault α} {js : List Json} {as : List α}
    (h : (itemDrafts js).mapM (decode levels) = .ok as) :
    Draft.readList decode (levels + 1) (array js).draft = .ok as := by
  rw [draft, Draft.readList]
  change ((itemDrafts js).mapM (decode levels) >>= _) = _
  rw [h]
  rfl

end Records

end SourceMacros.Json

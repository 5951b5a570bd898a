import SourceMacros.Proofs.Json.Drafts
import SourceMacros.Proofs.Json.Spelled

/-! The text that has a member to a line spells the value as well, so that the value is parsed off it,
`parse_pretty`. -/

namespace SourceMacros.Json

section Lines

theorem blanks_lineStart (depth : Nat) : Blanks (lineStart depth) := by
  intro c hc
  rcases List.mem_cons.1 hc with rfl | hc
  · decide
  · rw [List.eq_of_mem_replicate hc]
    decide

theorem blanks_space : Blanks [' '] := by simp [Blanks, isJsonBlank]

theorem lead_comma_line (depth : Nat) : Lead false (',' :: lineStart depth) :=
  ⟨[], lineStart depth, Blanks.nil, blanks_lineStart depth, rfl⟩

def othersIndented (closing : Char) (depth : Nat) (parts : List (List Char)) : List Char :=
  parts.flatMap (fun part => ',' :: (lineStart (depth + 1) ++ part)) ++ (lineStart depth ++ [closing])

theorem bracketed_cons (opening closing : Char) (depth : Nat) (part : List Char) (parts : List (List Char)) :
    bracketed opening closing depth (part :: parts) =
      opening :: (lineStart (depth + 1) ++ (part ++ othersIndented closing depth parts)) := by
  rw [bracketed, List.isEmpty_cons, if_neg Bool.false_ne_true, List.map_cons, intercalate_cons, List.flatMap_map,
    othersIndented]
  simp

end Lines

section Spelled

mutual

theorem spelled_indented : (j : Json) → j.Small → (depth : Nat) → j.Spelled (j.indented depth)
  | .null, _, _ | .bool true, _, _ | .bool false, _, _ | .string _, _, _ => rfl
  | .integer _, h, _ => ⟨h, rfl⟩
  | .decimal _, h, _ => h.elim
  | .array [], _, _ => ⟨_, rfl, [], Blanks.nil, rfl⟩
  | .array (j :: js), ⟨hj, hjs⟩, depth =>
    ⟨_, bracketed_cons _ _ depth _ _, lineStart (depth + 1), _, _, blanks_lineStart _,
      spelled_indented j hj (depth + 1), itemsSpelled_indented js hjs depth, rfl⟩
  | .object [], _, _ => ⟨_, rfl, [], Blanks.nil, rfl⟩
  | .object ((name, j) :: js), ⟨hj, hjs⟩, depth =>
    ⟨_, bracketed_cons _ _ depth _ _, lineStart (depth + 1), [], [' '], _, _, blanks_lineStart _, Blanks.nil,
      blanks_space, spelled_indented j hj (depth + 1), membersSpelled_indented js hjs depth, by simp⟩

theorem itemsSpelled_indented : (js : List Json) → ItemsSmall js → (depth : Nat) →
    ItemsSpelled false js (othersIndented ']' depth (itemsIndented (depth + 1) js))
  | [], _, depth => ⟨lineStart depth, blanks_lineStart depth, rfl⟩
  | j :: js, ⟨hj, hjs⟩, depth =>
    ⟨',' :: lineStart (depth + 1), _, _, lead_comma_line _, spelled_indented j hj (depth + 1),
      itemsSpelled_indented js hjs depth, by simp [othersIndented, itemsIndented]⟩

theorem membersSpelled_indented : (js : List (String × Json)) → MembersSmall js → (depth : Nat) →
    MembersSpelled false js (othersIndented '}' depth (membersIndented (depth + 1) js))
  | [], _, depth => ⟨lineStart depth, blanks_lineStart depth, rfl⟩
  | (name, j) :: js, ⟨hj, hjs⟩, depth =>
    ⟨',' :: lineStart (depth + 1), [], [' '], _, _, lead_comma_line _, Blanks.nil, blanks_space,
      spelled_indented j hj (depth + 1), membersSpelled_indented js hjs depth, by
        simp [othersIndented, membersIndented]⟩

end

theorem layout_pretty {j : Json} (h : j.Small) : j.Layout (j.pretty ++ "\n").toList :=
  ⟨[], j.indented 0, ['\n'], Blanks.nil, by simp [Blanks, isJsonBlank], spelled_indented j h 0, by simp [pretty]⟩

end Spelled

/-- A value whose numbers are integers is parsed off its lines, if it nests no deeper than it may. -/
theorem parse_pretty {j : Json} (h : j.Small) (hdepth : j.depth ≤ levels) : parse (j.pretty ++ "\n") = .ok j := by
  rw [parse, look_of_layout _ (layout_pretty h)]
  exact value_draft j hdepth

end SourceMacros.Json

import SourceMacros.Proofs.Declaration.Members
import SourceMacros.Proofs.GenerateStruct.Fields
import SourceMacros.Proofs.Reader.Reparse
import SourceMacros.Proofs.TypeDescriptor.Closed
import SourceMacros.Proofs.TypeDescriptor.Exact

/-! When the struct that `generateStruct` makes is source again, if types have to describe types:
`parse_generateStruct_iff`. Nothing but the first letter of a name is looked at when the struct is made, and
its body is one more level for the brackets of its types. -/

namespace SourceMacros

open Text Reader Nesting

namespace Declaration

/-- A struct with a variable for each name and type. -/
def structOfTypes (name : String) (fields : List (String × TypeDescriptor)) : Declaration :=
  .structOf name (fields.map fun f => .field f.1 f.2.render)

variable {name : String} {fields : List (String × TypeDescriptor)}

theorem wellFormed_structOfTypes (hname : isIdentifier name = true)
    (hfields : ∀ f ∈ fields, isIdentifier f.1 = true) (htypes : ∀ f ∈ fields, f.2.Named) :
    (structOfTypes name fields).WellFormed := by
  refine ⟨by simp, hname, membersShaped_iff.2 fun m hm => ?_⟩
  obtain ⟨f, hf, rfl⟩ := List.mem_map.1 hm
  refine ⟨by simp, hfields f hf, fun text htext => ?_, by simp⟩
  obtain rfl := Option.some.inj htext
  exact f.2.isClosedType_render (htypes f hf)

/-- The body is one level more than the deepest of the types. -/
theorem levels_structOfTypes_le_iff (htypes : ∀ f ∈ fields, f.2.Named) {n : Nat} :
    (structOfTypes name fields).levels ≤ n ↔ 0 < n ∧ ∀ f ∈ fields, f.2.brackets < n := by
  have hlevels : (structOfTypes name fields).levels = membersDepth (fun text => bracketDepth 0 text.toList)
      (fun text => bracketDepth 0 text.toList) (fields.map fun f => .field f.1 f.2.render) + 1 := rfl
  have hfield : ∀ f ∈ fields, (Declaration.field f.1 f.2.render).depth
      (fun text => bracketDepth 0 text.toList) (fun text => bracketDepth 0 text.toList) = f.2.brackets := by
    intro f hf
    rw [← f.2.bracketDepth_written (htypes f hf), ← f.2.toList_render]
    exact Nat.max_zero _
  rw [hlevels]
  cases n with
  | zero => simp
  | succ n =>
    rw [Nat.add_le_add_iff_right, membersDepth_le_iff, List.forall_mem_map, and_iff_right n.succ_pos]
    refine forall₂_congr fun f hf => ?_
    rw [hfield f hf, Nat.lt_succ_iff]

theorem isIdentifier_of_parse_structOfTypes {source : String}
    (h : Declaration.parse source = .ok (structOfTypes name fields)) :
    isIdentifier name = true ∧ ∀ f ∈ fields, isIdentifier f.1 = true := by
  obtain ⟨-, hname, hmembers⟩ := Declaration.kept_of_parse h
  refine ⟨hname, fun f hf => ?_⟩
  obtain ⟨-, hfield, -⟩ := membersShaped_iff.1 hmembers _ (List.mem_map_of_mem hf)
  exact hfield

theorem parse_structOfTypes_iff (htypes : ∀ f ∈ fields, f.2.Named) :
    Declaration.parse (structOfTypes name fields).render = .ok (structOfTypes name fields) ↔
      isIdentifier name = true ∧ ∀ f ∈ fields, isIdentifier f.1 = true ∧ f.2.brackets < limit := by
  have hlevels : (structOfTypes name fields).levels ≤ limit ↔
      0 < limit ∧ ∀ f ∈ fields, f.2.brackets < limit := levels_structOfTypes_le_iff htypes
  constructor
  · intro h
    obtain ⟨hname, hfields⟩ := isIdentifier_of_parse_structOfTypes h
    have hdeep := (wellFormed_structOfTypes hname hfields htypes).parse_written.1.1 h
    exact ⟨hname, fun f hf => ⟨hfields f hf, (hlevels.1 hdeep).2 f hf⟩⟩
  · rintro ⟨hname, hfields⟩
    have hd := wellFormed_structOfTypes hname (fun f hf => (hfields f hf).1) htypes
    exact hd.parse_written.1.2 (hlevels.2 ⟨by decide, fun f hf => (hfields f hf).2⟩)

end Declaration

namespace Expander

open Declaration

/-- Types that were described describe themselves. -/
theorem parse_render_of_describes {fields : List (String × String)} {typed : List (String × TypeDescriptor)}
    (h : List.Forall₂ Describes fields typed) : ∀ g ∈ typed, TypeDescriptor.parse g.2.render = .ok g.2 := by
  induction h with
  | nil => simp
  | cons hdescribes _ ih =>
    exact List.forall_mem_cons.2 ⟨TypeDescriptor.parse_render_of_parse hdescribes.2, ih⟩

theorem exists_types_of_mapM {pairs : List (String × String)} {members : List Declaration}
    (h : (pairs.mapM fun f => (fieldType .descriptor f.1 f.2).map (Declaration.field f.1)) = .ok members) :
    ∃ fields : List (String × TypeDescriptor), members = fields.map (fun f => .field f.1 f.2.render) ∧
      ∀ f ∈ fields, TypeDescriptor.parse f.2.render = .ok f.2 := by
  obtain ⟨fields, hfields, rfl⟩ := forall₂_member_descriptor_iff.1 (mapM_fieldType_eq_ok.1 h)
  exact ⟨fields, rfl, parse_render_of_describes hfields⟩

/-- A struct whose types had to describe types is read back just where its names are identifiers and no type
nests deeper than the levels left in its body. -/
theorem parse_generateStruct_iff (v : Invocation) (context : Context)
    (hpolicy : context.config.fieldTypes = .descriptor) (ds : List Declaration)
    (h : (generateStruct v context).result = .ok ds) :
    ∃ (name : String) (fields : List (String × TypeDescriptor)), ds = [structOfTypes name fields] ∧
      (∀ f ∈ fields, TypeDescriptor.parse f.2.render = .ok f.2) ∧
      (Declaration.parse (structOfTypes name fields).render = .ok (structOfTypes name fields) ↔
        isIdentifier name = true ∧ ∀ f ∈ fields, isIdentifier f.1 = true ∧ f.2.brackets < limit) := by
  obtain ⟨_, _, name, entries, members, -, -, -, -, hmembers, -, rfl⟩ := generateStruct_eq_ok.1 h
  rw [hpolicy, result_fieldsOf] at hmembers
  obtain ⟨fields, rfl, hfields⟩ := exists_types_of_mapM hmembers
  refine ⟨name, fields, rfl, hfields, parse_structOfTypes_iff fun f hf => ?_⟩
  exact (TypeDescriptor.parse_eq_ok_iff.1 (hfields f hf)).1.named

/-- A struct with a list, whose text is read as the struct. -/
theorem parse_generateStruct_iff_list :
    (generateStruct ⟨"generateStruct", [.plain (.string [.text "A"]),
        .plain (.dictionary [⟨.string [.text "x"], .string [.text "[ Int ]"]⟩])]⟩
      { config := { fieldTypes := .descriptor } }).result =
        .ok [structOfTypes "A" [("x", .array (.primitive .int))]] ∧
    Declaration.parse (structOfTypes "A" [("x", .array (.primitive .int))]).render =
      .ok (structOfTypes "A" [("x", .array (.primitive .int))]) := by
  have hrun : (generateStruct ⟨"generateStruct", [.plain (.string [.text "A"]),
        .plain (.dictionary [⟨.string [.text "x"], .string [.text "[ Int ]"]⟩])]⟩
      { config := { fieldTypes := .descriptor } }).result =
        .ok [structOfTypes "A" [("x", .array (.primitive .int))]] := by decide +kernel
  obtain ⟨name, fields, hds, htypes, hread⟩ := parse_generateStruct_iff _ _ rfl _ hrun
  have hsame := (List.cons.inj hds).1
  refine ⟨hrun, ?_⟩
  rw [hsame]
  simp only [structOfTypes, structOf, List.map_cons, List.map_nil, Declaration.body.injEq, true_and] at hsame
  obtain ⟨rfl, hfields⟩ := hsame
  obtain ⟨f, rest, rfl, hfield, hrest⟩ := List.map_eq_cons_iff.1 hfields.symm
  obtain rfl := List.map_eq_nil_iff.1 hrest
  obtain ⟨hname, htype⟩ : f.1 = "x" ∧ f.2.render = TypeDescriptor.render (.array (.primitive .int)) := by
    simpa [field] using hfield
  have hparse := htypes f (by simp)
  rw [htype, show TypeDescriptor.parse (TypeDescriptor.render (.array (.primitive .int))) =
    .ok (.array (.primitive .int)) by decide +kernel] at hparse
  refine hread.2 ⟨by decide, fun g hg => ?_⟩
  rw [List.mem_singleton.1 hg, hname, ← Except.ok.inj hparse]
  decide

def nestedLists : Nat → TypeDescriptor
  | 0 => .primitive .int
  | n + 1 => .array (nestedLists n)

/-- A type that nests to the limit is refused in the body of a struct, and a name with a semicolon is read
as more than one variable. -/
theorem generateStruct_unreadable :
    (∃ v, Invocation.parse "#generateStruct(\"A\", fields: [\"x\": \"[[[[[[[[[[[[[[[[[[[[[[[[[[[[[[[[Int]]]]]]]]]]]]]]]]]]]]]]]]]]]]]]]]\"])" =
        .ok v ∧
      (generateStruct v { config := { fieldTypes := .descriptor } }).result =
        .ok [structOfTypes "A" [("x", nestedLists limit)]] ∧
      Declaration.parse (structOfTypes "A" [("x", nestedLists limit)]).render =
        .error (.unreadable (.tooDeep 53))) ∧
    ∃ v, Invocation.parse "#generateStruct(\"A\", fields: [\"x: Int; var y\": \"Int\"])" = .ok v ∧
      (generateStruct v { config := { fieldTypes := .descriptor } }).result =
        .ok [structOfTypes "A" [("x: Int; var y", .primitive .int)]] ∧
      Declaration.parse (structOfTypes "A" [("x: Int; var y", .primitive .int)]).render =
        .ok (structOfTypes "A" [("x", .primitive .int), ("y", .primitive .int)]) := by
  refine ⟨⟨⟨"generateStruct", [.plain (.string [.text "A"]), ⟨some "fields",
      .dictionary [⟨.string [.text "x"], .string [.text (nestedLists limit).render]⟩]⟩]⟩, ?_, ?_, ?_⟩,
    ⟨"generateStruct", [.plain (.string [.text "A"]), ⟨some "fields",
      .dictionary [⟨.string [.text "x: Int; var y"], .string [.text "Int"]⟩]⟩]⟩, ?_, ?_, ?_⟩ <;>
    decide +kernel

end Expander
end SourceMacros

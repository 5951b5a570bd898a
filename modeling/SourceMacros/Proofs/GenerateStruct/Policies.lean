import SourceMacros.Proofs.GenerateStruct.Readable
import SourceMacros.Proofs.GenerateStruct.Run

/-! The two policies for the types of fields beside each other, `structsUnder_agree`: types that have to
describe types lead to the struct that types as they are spelled lead to, with each type written as it is
described, or to an error of their own. -/

namespace SourceMacros

namespace Declaration

/-- A struct with a variable for each name and text of a type. -/
def structOfTexts (name : String) (fields : List (String × String)) : Declaration :=
  .structOf name (fields.map fun f => .field f.1 f.2)

theorem structOfTexts_inj {name name' : String} {fields fields' : List (String × String)} :
    structOfTexts name fields = structOfTexts name' fields' ↔ name = name' ∧ fields = fields' := by
  have hfield : Function.Injective fun f : String × String => Declaration.field f.1 f.2 := by
    rintro ⟨field, text⟩ ⟨field', text'⟩ h
    simpa [Declaration.field] using h
  simp [structOfTexts, structOf, (List.map_injective_iff.2 hfield).eq_iff]

end Declaration

namespace Expander

open Declaration

/-- What a call comes to in a context with the given policy for types in place of its own. -/
def structsUnder (policy : FieldTypePolicy) (v : Invocation) (context : Context) :
    Except ExpansionError (List Declaration) :=
  (generateStruct v { context with config := { context.config with fieldTypes := policy } }).result

/-- The call asks for a struct of the name with fields of which each type is spelled as it is written. -/
def Spells (v : Invocation) (structName : String) (typed : List (String × TypeDescriptor)) : Prop :=
  ∃ entries, Takes v structName entries ∧
    entries.filterMap fieldOf? = typed.map fun g => (g.1, g.2.render)

variable {policy : FieldTypePolicy} {v : Invocation} {context : Context} {structName : String}
  {entries : List Entry} {fields : List (String × String)} {typed : List (String × TypeDescriptor)}
  {members ds : List Declaration}

/-- As they are spelled, fields have one struct. -/
theorem forall₂_member_raw_iff :
    List.Forall₂ (Member .raw) fields members ↔ members = fields.map fun f => .field f.1 f.2 := by
  constructor
  · intro h
    induction h with
    | nil => rfl
    | cons hmember _ ih =>
      cases hmember with
      | raw =>
        rw [List.map_cons, ← ih]
        rfl
  · rintro rfl
    rw [List.forall₂_map_right_iff, List.forall₂_same]
    exact fun f _ => .raw f

theorem structsUnder_eq_ok (htakes : Takes v structName entries) :
    structsUnder policy v context = .ok ds ↔ startsUppercase structName = true ∧
      ∃ members, List.Forall₂ (Member policy) (entries.filterMap fieldOf?) members ∧ members ≠ [] ∧
        ds = [.structOf structName members] := by
  obtain ⟨name, dictionary, harguments, hname, hentries⟩ := htakes
  rw [structsUnder, result_generateStruct harguments hname hentries]
  split
  case isFalse hlower => exact iff_of_false (by simp) fun h => hlower h.1
  case isTrue hupper =>
    rw [and_iff_right hupper, except_bind_eq_ok]
    refine exists_congr fun members => ?_
    rw [result_fieldsOf, mapM_fieldType_eq_ok]
    refine and_congr_right fun _ => ?_
    split
    case isTrue hnil => exact iff_of_false (by simp) fun h => h.1 hnil
    case isFalse hne =>
      exact ⟨fun h => ⟨hne, (Except.ok.inj h).symm⟩, fun h => congrArg Except.ok h.2.symm⟩

theorem structsUnder_of_misfit {reason : String} (h : Misfit v reason) (policy : FieldTypePolicy)
    (context : Context) : structsUnder policy v context = .error (.argument v.name reason) :=
  (generateStruct_misfit h _).1

theorem takes_of_structsUnder_eq_ok (h : structsUnder policy v context = .ok ds) :
    ∃ structName entries, Takes v structName entries := by
  refine (misfit_or_takes v).resolve_left ?_
  rintro ⟨reason, hreason⟩
  rw [structsUnder_of_misfit hreason] at h
  cases h

theorem structsUnder_raw_eq_ok (htakes : Takes v structName entries) :
    structsUnder .raw v context = .ok ds ↔ startsUppercase structName = true ∧
      entries.filterMap fieldOf? ≠ [] ∧ ds = [structOfTexts structName (entries.filterMap fieldOf?)] := by
  simp only [structsUnder_eq_ok htakes, forall₂_member_raw_iff, exists_eq_left, ne_eq, List.map_eq_nil_iff,
    structOfTexts]

/-- A struct that is made of types that describe types has a variable for each field, with its type as it
is described. -/
theorem structsUnder_descriptor_eq_ok (htakes : Takes v structName entries) :
    structsUnder .descriptor v context = .ok ds ↔ startsUppercase structName = true ∧
      ∃ typed, List.Forall₂ Describes (entries.filterMap fieldOf?) typed ∧ typed ≠ [] ∧
        ds = [structOfTypes structName typed] := by
  rw [structsUnder_eq_ok htakes]
  refine and_congr_right fun _ => ?_
  constructor
  · rintro ⟨members, hmembers, hne, rfl⟩
    obtain ⟨typed, htyped, rfl⟩ := forall₂_member_descriptor_iff.1 hmembers
    exact ⟨typed, htyped, fun hnil => hne (by rw [hnil]; rfl), rfl⟩
  · rintro ⟨typed, htyped, hne, rfl⟩
    exact ⟨_, forall₂_member_descriptor_iff.2 ⟨typed, htyped, rfl⟩, mt List.map_eq_nil_iff.1 hne,
      rfl⟩

/-- Nothing but the types of fields comes to an error under one policy and not the other. -/
theorem structsUnder_descriptor_of_error {e : ExpansionError} (h : structsUnder .raw v context = .error e) :
    structsUnder .descriptor v context = .error e := by
  obtain ⟨reason, hreason⟩ | ⟨structName, entries, htakes⟩ := misfit_or_takes v
  · rw [structsUnder_of_misfit hreason] at h ⊢
    exact h
  obtain ⟨name, dictionary, harguments, hname, hentries⟩ := htakes
  rw [structsUnder, result_generateStruct harguments hname hentries, result_fieldsOf] at h ⊢
  split at h
  case isFalse hlower => rwa [if_neg hlower]
  case isTrue hupper =>
    rw [mapM_fieldType_eq_ok.2 (forall₂_member_raw_iff.2 rfl)] at h
    change (if _ then _ else _) = _ at h
    split at h
    case isFalse => cases h
    case isTrue hnil =>
      rw [if_pos hupper, List.map_eq_nil_iff.1 hnil]
      exact h

theorem exists_describes_of_forall (h : ∀ f ∈ fields, ∃ t, TypeDescriptor.parse f.2 = .ok t) :
    ∃ typed, List.Forall₂ Describes fields typed := by
  induction fields with
  | nil => exact ⟨[], .nil⟩
  | cons f fields ih =>
    obtain ⟨⟨t, ht⟩, h⟩ := List.forall_mem_cons.1 h
    obtain ⟨typed, htyped⟩ := ih h
    exact ⟨(f.1, t) :: typed, .cons ⟨rfl, ht⟩ htyped⟩

theorem exists_parse_of_describes (h : List.Forall₂ Describes fields typed) :
    ∀ f ∈ fields, ∃ t, TypeDescriptor.parse f.2 = .ok t := by
  induction h with
  | nil => simp
  | cons hdescribes _ ih => exact List.forall_mem_cons.2 ⟨⟨_, hdescribes.2⟩, ih⟩

theorem describes_render (h : List.Forall₂ Describes fields typed) :
    List.Forall₂ Describes (typed.map fun g => (g.1, g.2.render)) typed := by
  rw [List.forall₂_map_left_iff, List.forall₂_same]
  exact fun g hg => ⟨rfl, parse_render_of_describes h g hg⟩

theorem fieldOf?_ofText (name text : String) :
    fieldOf? ⟨.ofText name, .ofText text⟩ = some (name, text) := by
  have hvalue : ∀ s : String, (Expression.ofText s).stringValue? = some s := fun s => by
    simp [Expression.ofText, Expression.stringValue?, Segment.text?, String.join]
  simp [fieldOf?, hvalue]

theorem exists_spells (structName : String) (typed : List (String × TypeDescriptor)) :
    ∃ v, Spells v structName typed := by
  refine ⟨⟨"generateStruct", [.plain (.ofText structName),
    .plain (.dictionary (typed.map fun g => ⟨.ofText g.1, .ofText g.2.render⟩))]⟩, _,
    ⟨_, _, rfl, ?_, rfl⟩, ?_⟩
  · simp [Argument.plain, Expression.ofText, Expression.stringValue?, Segment.text?, String.join]
  · rw [List.filterMap_map]
    simp [fieldOf?_ofText]

/-- Where types have to describe types, a call makes the struct that it makes otherwise, with each type as
described, just where each is; errors stay. A call for that struct makes it again. -/
theorem structsUnder_agree (v : Invocation) (context : Context) :
    (∀ e, structsUnder .raw v context = .error e → structsUnder .descriptor v context = .error e) ∧
    (∀ ds, structsUnder .raw v context = .ok ds →
      ∃ structName fields, ds = [structOfTexts structName fields]) ∧
    ((∃ ds, structsUnder .descriptor v context = .ok ds) ↔
      ∃ structName fields, structsUnder .raw v context = .ok [structOfTexts structName fields] ∧
        ∀ f ∈ fields, ∃ t, TypeDescriptor.parse f.2 = .ok t) ∧
    ∀ structName fields ds, structsUnder .raw v context = .ok [structOfTexts structName fields] →
      structsUnder .descriptor v context = .ok ds →
      ∃ typed, ds = [structOfTypes structName typed] ∧
        List.Forall₂ Describes fields typed ∧
        (∃ v', Spells v' structName typed) ∧
        ∀ v', Spells v' structName typed → structsUnder .descriptor v' context = .ok ds := by
  refine ⟨fun _ => structsUnder_descriptor_of_error, fun ds h => ?_, ⟨?_, ?_⟩, ?_⟩
  · obtain ⟨structName, entries, htakes⟩ := takes_of_structsUnder_eq_ok h
    obtain ⟨-, -, rfl⟩ := (structsUnder_raw_eq_ok htakes).1 h
    exact ⟨_, _, rfl⟩
  · rintro ⟨ds, h⟩
    obtain ⟨structName, entries, htakes⟩ := takes_of_structsUnder_eq_ok h
    obtain ⟨hupper, typed, htyped, hne, rfl⟩ := (structsUnder_descriptor_eq_ok htakes).1 h
    have hfields : entries.filterMap fieldOf? ≠ [] := by
      intro hnil
      rw [hnil, List.forall₂_nil_left_iff] at htyped
      exact hne htyped
    exact ⟨_, _, (structsUnder_raw_eq_ok htakes).2 ⟨hupper, hfields, rfl⟩,
      exists_parse_of_describes htyped⟩
  · rintro ⟨structName, fields, h, hparse⟩
    obtain ⟨_, entries, htakes⟩ := takes_of_structsUnder_eq_ok h
    obtain ⟨hupper, hfields, hds⟩ := (structsUnder_raw_eq_ok htakes).1 h
    obtain ⟨rfl, rfl⟩ := structOfTexts_inj.1 (List.singleton_inj.1 hds)
    obtain ⟨typed, htyped⟩ := exists_describes_of_forall hparse
    refine ⟨_, (structsUnder_descriptor_eq_ok htakes).2 ⟨hupper, typed, htyped, ?_, rfl⟩⟩
    rintro rfl
    exact hfields (List.forall₂_nil_right_iff.1 htyped)
  · intro structName fields ds hraw h
    obtain ⟨_, entries, htakes⟩ := takes_of_structsUnder_eq_ok h
    obtain ⟨hupper, -, hds⟩ := (structsUnder_raw_eq_ok htakes).1 hraw
    obtain ⟨rfl, rfl⟩ := structOfTexts_inj.1 (List.singleton_inj.1 hds)
    obtain ⟨-, typed, htyped, hne, rfl⟩ := (structsUnder_descriptor_eq_ok htakes).1 h
    refine ⟨typed, rfl, htyped, exists_spells _ typed, ?_⟩
    rintro v' ⟨entries', htakes', hentries'⟩
    refine (structsUnder_descriptor_eq_ok htakes').2 ⟨hupper, typed, ?_, hne, rfl⟩
    rw [hentries']
    exact describes_render htyped

def looseCall : Invocation :=
  ⟨"generateStruct", [.plain (.ofText "Tally"), .plain (.ofPairs
    [(.ofText "counts", .ofText "[ String:Int ]"), (.ofText "last", .ofText "UUID?")])]⟩

/-- The types are kept as they are spelled, or written as they are described; a call with the types that are
written makes the same struct. -/
theorem structsUnder_agree_loose :
    structsUnder .raw looseCall {} =
      .ok [structOfTexts "Tally" [("counts", "[ String:Int ]"), ("last", "UUID?")]] ∧
    ∃ typed, structsUnder .descriptor looseCall {} = .ok [structOfTypes "Tally" typed] ∧
      typed.map (fun g => g.2.render) = ["[String: Int]", "UUID?"] ∧
      ∀ v', Spells v' "Tally" typed →
        structsUnder .descriptor v' {} = .ok [structOfTypes "Tally" typed] := by
  have hraw : structsUnder .raw looseCall {} =
      .ok [structOfTexts "Tally" [("counts", "[ String:Int ]"), ("last", "UUID?")]] := by decide +kernel
  have hcounts : TypeDescriptor.parse "[ String:Int ]" =
      .ok (.dictionary (.primitive .string) (.primitive .int)) := by decide +kernel
  have hlast : TypeDescriptor.parse "UUID?" = .ok (.optional (.primitive .uuid)) := by decide +kernel
  have hagree := structsUnder_agree looseCall {}
  obtain ⟨ds, hds⟩ := hagree.2.2.1.2 ⟨_, _, hraw, by simp [hcounts, hlast]⟩
  obtain ⟨typed, rfl, htyped, -, hback⟩ := hagree.2.2.2 _ _ ds hraw hds
  refine ⟨hraw, typed, hds, ?_, hback⟩
  obtain ⟨g, _, ⟨-, hg⟩, hrest, rfl⟩ := List.forall₂_cons_left_iff.1 htyped
  obtain ⟨g', _, ⟨-, hg'⟩, hnil, rfl⟩ := List.forall₂_cons_left_iff.1 hrest
  obtain rfl := List.forall₂_nil_left_iff.1 hnil
  rw [hcounts] at hg
  rw [hlast] at hg'
  rw [List.map_cons, List.map_cons, ← Except.ok.inj hg, ← Except.ok.inj hg']
  decide +kernel

end Expander
end SourceMacros

import Mathlib.Data.List.Forall2
import SourceMacros.Expander.GenerateStruct
import SourceMacros.Proofs.TypeDescriptor.Reading

/-! What `generateStruct` makes of a call: a field of each entry that is a pair of string literals with
values, in order, `result_fieldsOf`, and a struct of the fields, `generateStruct_eq_ok`. -/

namespace SourceMacros.Expander

open Text

/-- The name and the type of a field, where both are string literals that have values. -/
def fieldOf? (entry : Entry) : Option (String × String) :=
  entry.key.stringValue?.bind fun name => entry.value.stringValue?.map (name, ·)

theorem result_stringValue (e : Expression) : (stringValue e).result = .ok e.stringValue? := by
  unfold stringValue
  cases e.obstacle? <;> rfl

theorem result_fieldOf (entry : Entry) : (fieldOf entry).result = .ok (fieldOf? entry) := by
  unfold fieldOf fieldOf?
  rw [Expansion.result_bind, result_stringValue]
  cases entry.key.stringValue? with
  | none => rfl
  | some name =>
    have hvalue := Expansion.result_bind_pure (stringValue entry.value) fun o => o.map (name, ·)
    rwa [result_stringValue] at hvalue

theorem result_fieldsOf (policy : FieldTypePolicy) (structName : String) (entries : List Entry) :
    (fieldsOf policy structName entries).result =
      (entries.filterMap fieldOf?).mapM fun f => (fieldType policy f.1 f.2).map (Declaration.field f.1) := by
  induction entries with
  | nil => rfl
  | cons entry entries ih =>
    rw [fieldsOf, Expansion.result_bind, result_fieldOf]
    cases hfield : fieldOf? entry with
    | none =>
      rw [List.filterMap_cons_none hfield, ← ih]
      rfl
    | some f =>
      have hrest (type : String) := Expansion.result_bind_pure (fieldsOf policy structName entries)
        fun members => Declaration.field f.1 type :: members
      rw [List.filterMap_cons_some hfield, List.mapM_cons, ← ih]
      change (Expansion.ofExcept (fieldType policy f.1 f.2) >>= _).result = _
      rw [Expansion.result_bind, Expansion.ofExcept]
      cases fieldType policy f.1 f.2 with
      | error error => rfl
      | ok type => exact hrest type

/-- The plain variable that stands for a field: its type is the text of the field, or the type that the text
describes, written anew. -/
inductive Member : FieldTypePolicy → String × String → Declaration → Prop
  | raw (f : String × String) : Member .raw f (.binding ⟨f.1, some f.2, none, false, [], []⟩)
  | descriptor {f : String × String} {t : TypeDescriptor} (h : TypeDescriptor.parse f.2 = .ok t) :
    Member .descriptor f (.binding ⟨f.1, some t.render, none, false, [], []⟩)

/-- The type is described by the text, under the same name. -/
def Describes (f : String × String) (g : String × TypeDescriptor) : Prop :=
  f.1 = g.1 ∧ TypeDescriptor.parse f.2 = .ok g.2

section Members

variable {policy : FieldTypePolicy} {fields : List (String × String)} {members : List Declaration}

theorem fieldType_descriptor_eq_ok {field text type : String} :
    fieldType .descriptor field text = .ok type ↔
      ∃ t, TypeDescriptor.parse text = .ok t ∧ type = t.render := by
  unfold fieldType
  cases TypeDescriptor.parse text <;> simp [eq_comm]

theorem fieldType_map_eq_ok {f : String × String} {member : Declaration} :
    (fieldType policy f.1 f.2).map (Declaration.field f.1) = .ok member ↔ Member policy f member := by
  rw [except_map_eq_ok]
  constructor
  · rintro ⟨type, htype, rfl⟩
    cases policy with
    | raw =>
      obtain rfl := Except.ok.inj htype
      exact .raw f
    | descriptor =>
      obtain ⟨t, ht, rfl⟩ := fieldType_descriptor_eq_ok.1 htype
      exact .descriptor ht
  · intro h
    cases h with
    | raw => exact ⟨f.2, rfl, rfl⟩
    | descriptor ht => exact ⟨_, fieldType_descriptor_eq_ok.2 ⟨_, ht, rfl⟩, rfl⟩

theorem mapM_fieldType_eq_ok :
    (fields.mapM fun f => (fieldType policy f.1 f.2).map (Declaration.field f.1)) = .ok members ↔
      List.Forall₂ (Member policy) fields members := by
  induction fields generalizing members with
  | nil =>
    rw [List.forall₂_nil_left_iff]
    exact ⟨fun h => (Except.ok.inj h).symm, fun h => h ▸ rfl⟩
  | cons f fields ih =>
    rw [List.mapM_cons, except_bind_eq_ok, List.forall₂_cons_left_iff]
    constructor
    · rintro ⟨member, hmember, h⟩
      obtain ⟨rest, hrest, h⟩ := except_bind_eq_ok.1 h
      exact ⟨member, rest, fieldType_map_eq_ok.1 hmember, ih.1 hrest, (Except.ok.inj h).symm⟩
    · rintro ⟨member, rest, hmember, hrest, rfl⟩
      exact ⟨member, fieldType_map_eq_ok.2 hmember, except_bind_eq_ok.2 ⟨rest, ih.2 hrest, rfl⟩⟩

theorem forall₂_member_descriptor_iff :
    List.Forall₂ (Member .descriptor) fields members ↔
      ∃ typed, List.Forall₂ Describes fields typed ∧
        members = typed.map fun g => .field g.1 g.2.render := by
  constructor
  · intro h
    induction h with
    | nil => exact ⟨[], .nil, rfl⟩
    | @cons f _ _ _ hmember _ ih =>
      obtain ⟨typed, htyped, rfl⟩ := ih
      cases hmember with
      | descriptor ht => exact ⟨(f.1, _) :: typed, .cons ⟨rfl, ht⟩ htyped, rfl⟩
  · rintro ⟨typed, htyped, rfl⟩
    rw [List.forall₂_map_right_iff]
    refine htyped.imp fun f g hdescribes => ?_
    rw [← hdescribes.1]
    exact .descriptor hdescribes.2

end Members

/-- What a call with a name and the entries of its fields comes to. -/
theorem result_generateStruct {v : Invocation} {name fields : Argument} {structName : String}
    {entries : List Entry} (harguments : v.arguments = [name, fields])
    (hname : name.value.stringValue? = some structName) (hentries : fields.value = .dictionary entries)
    (context : Context) : (generateStruct v context).result =
      if startsUppercase structName then
        (fieldsOf context.config.fieldTypes structName entries).result >>= fun members =>
          if members = [] then .error (.emptyFields v.name structName)
          else .ok [.structOf structName members]
      else .error (.naming structName) := by
  unfold generateStruct
  simp only [harguments, hentries, Expansion.result_bind, result_stringValue, hname]
  change (if _ then _ else _ : Expansion (List Declaration)).result = _
  split
  case isFalse => rfl
  case isTrue =>
    rw [Expansion.result_bind]
    cases (fieldsOf context.config.fieldTypes structName entries).result with
    | error error => rfl
    | ok members => cases members <;> rfl

/-- A struct is made of a call with a name that begins with an uppercase letter and the entries of its
fields, of which one has to be left. -/
theorem generateStruct_eq_ok {v : Invocation} {context : Context} {ds : List Declaration} :
    (generateStruct v context).result = .ok ds ↔
      ∃ name fields structName entries members, v.arguments = [name, fields] ∧
        name.value.stringValue? = some structName ∧ fields.value = .dictionary entries ∧
        startsUppercase structName = true ∧
        (fieldsOf context.config.fieldTypes structName entries).result = .ok members ∧ members ≠ [] ∧
        ds = [.structOf structName members] := by
  constructor
  · intro h
    obtain ⟨name, fields, harguments⟩ : ∃ name fields, v.arguments = [name, fields] := by
      unfold generateStruct at h
      split at h
      case h_1 name fields harguments => exact ⟨name, fields, harguments⟩
      case h_2 => cases h
    obtain ⟨structName, hname⟩ : ∃ structName, name.value.stringValue? = some structName := by
      by_contra hnone
      rw [← Option.ne_none_iff_exists', not_not] at hnone
      unfold generateStruct at h
      simp only [harguments, Expansion.result_bind, result_stringValue, hnone] at h
      cases h
    obtain ⟨entries, hentries⟩ : ∃ entries, fields.value = .dictionary entries := by
      unfold generateStruct at h
      simp only [harguments, Expansion.result_bind, result_stringValue, hname] at h
      cases hvalue : fields.value <;> rw [hvalue] at h
      case dictionary entries => exact ⟨entries, rfl⟩
      all_goals cases h
    rw [result_generateStruct harguments hname hentries] at h
    split at h
    case isFalse => cases h
    case isTrue hupper =>
      obtain ⟨members, hmembers, h⟩ := except_bind_eq_ok.1 h
      split at h
      case isTrue => cases h
      case isFalse hne =>
        exact ⟨name, fields, structName, entries, members, harguments, hname, hentries, hupper, hmembers,
          hne, (Except.ok.inj h).symm⟩
  · rintro ⟨name, fields, structName, entries, members, harguments, hname, hentries, hupper, hmembers,
      hne, rfl⟩
    rw [result_generateStruct harguments hname hentries, if_pos hupper, hmembers]
    exact if_neg hne

end SourceMacros.Expander

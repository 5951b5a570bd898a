import SourceMacros.Proofs.GenerateStruct.Fields

/-! The run of `generateStruct`, from its arguments to its struct or the first of its errors, with a warning
for each entry that is no field, `generateStruct_run`. -/

namespace SourceMacros

namespace Expansion

variable {α β : Type} {x : Expansion α} {f : α → Expansion β}

/-- The warnings of a run, in order. -/
def warnings (x : Expansion α) : List Event := x.events.filter (·.level == .warn)

theorem warnings_bind_ok {a : α} (h : x.result = .ok a) :
    (x >>= f).warnings = x.warnings ++ (f a).warnings := by
  rw [bind_eq, andThen, h]
  exact List.filter_append ..

theorem warnings_bind_error {e : ExpansionError} (h : x.result = .error e) :
    (x >>= f).warnings = x.warnings := by
  rw [bind_eq, andThen, h]
  rfl

end Expansion

namespace Expander

open Expansion

/-- The name and the entries that the two arguments of a call have to hold. -/
def Takes (v : Invocation) (structName : String) (entries : List Entry) : Prop :=
  ∃ name fields, v.arguments = [name, fields] ∧ name.value.stringValue? = some structName ∧
    fields.value = .dictionary entries

/-- Why the arguments of a call do not hold a name and entries. -/
inductive Misfit (v : Invocation) : String → Prop
  | count (h : v.arguments.length ≠ 2) :
    Misfit v
      s!"expected a struct name and a fields dictionary, found {v.arguments.length} argument(s)"
  | name {name fields : Argument} (harguments : v.arguments = [name, fields])
    (hname : name.value.stringValue? = none) :
    Misfit v s!"struct name must be a string literal, found {name.value.render}"
  | fields {name fields : Argument} {structName : String} (harguments : v.arguments = [name, fields])
    (hname : name.value.stringValue? = some structName)
    (hfields : ∀ entries, fields.value ≠ .dictionary entries) :
    Misfit v s!"fields must be a dictionary literal, found {fields.value.render}"

/-- The policy refuses the text of a type. -/
def Refuses (policy : FieldTypePolicy) (text : String) : Prop :=
  policy = .descriptor ∧ ∀ t, TypeDescriptor.parse text ≠ .ok t

/-- The warnings of the entries that are no fields. -/
def droppedFrom (structName : String) (entries : List Entry) : List Event :=
  (entries.filter fun entry => (fieldOf? entry).isNone).map (dropped structName)

variable {policy : FieldTypePolicy} {structName : String} {entry : Entry} {entries : List Entry}

theorem fieldType_of_refuses {field text : String} (h : Refuses policy text) :
    fieldType policy field text = .error (.invalidType field text) := by
  obtain ⟨rfl, hparse⟩ := h
  unfold fieldType
  cases ht : TypeDescriptor.parse text with
  | ok t => exact absurd ht (hparse t)
  | error e => rfl

theorem fieldType_of_not_refuses {f : String × String} (h : ¬ Refuses policy f.2) :
    ∃ type, fieldType policy f.1 f.2 = .ok type ∧ Member policy f (.field f.1 type) := by
  cases policy with
  | raw => exact ⟨f.2, rfl, .raw f⟩
  | descriptor =>
    obtain ⟨t, ht⟩ : ∃ t, TypeDescriptor.parse f.2 = .ok t := by
      by_contra hnone
      exact h ⟨rfl, fun t ht => hnone ⟨t, ht⟩⟩
    exact ⟨t.render, by rw [fieldType, ht], .descriptor ht⟩

theorem warnings_stringValue (e : Expression) : (stringValue e).warnings = [] := by
  unfold stringValue
  cases e.obstacle? <;> rfl

theorem warnings_fieldOf (entry : Entry) : (fieldOf entry).warnings = [] := by
  unfold fieldOf
  rw [warnings_bind_ok (result_stringValue entry.key), warnings_stringValue, List.nil_append]
  cases entry.key.stringValue? with
  | none => rfl
  | some name =>
    change (stringValue entry.value >>= _).warnings = []
    rw [warnings_bind_ok (result_stringValue entry.value), warnings_stringValue]
    rfl

/-- An entry that is no field leaves a warning and nothing else. -/
theorem fieldsOf_dropped (h : fieldOf? entry = none) (policy : FieldTypePolicy) (structName : String)
    (entries : List Entry) :
    (fieldsOf policy structName (entry :: entries)).result = (fieldsOf policy structName entries).result ∧
      (fieldsOf policy structName (entry :: entries)).warnings =
        dropped structName entry :: (fieldsOf policy structName entries).warnings := by
  constructor
  · rw [fieldsOf, result_bind, result_fieldOf, h]
    rfl
  · rw [fieldsOf, warnings_bind_ok (result_fieldOf entry), warnings_fieldOf, h]
    rfl

theorem fieldsOf_admitted {f : String × String} {type : String} (h : fieldOf? entry = some f)
    (htype : fieldType policy f.1 f.2 = .ok type) (structName : String) (entries : List Entry) :
    (fieldsOf policy structName (entry :: entries)).result =
        (fieldsOf policy structName entries).result.map (.field f.1 type :: ·) ∧
      (fieldsOf policy structName (entry :: entries)).warnings =
        (fieldsOf policy structName entries).warnings := by
  constructor
  · rw [fieldsOf, result_bind, result_fieldOf, h]
    change (ofExcept (fieldType policy f.1 f.2) >>= _).result = _
    rw [htype]
    exact result_bind_pure (fieldsOf policy structName entries) fun members => .field f.1 type :: members
  · rw [fieldsOf, warnings_bind_ok (result_fieldOf entry), warnings_fieldOf, h]
    change (ofExcept (fieldType policy f.1 f.2) >>= _).warnings = _
    rw [htype]
    change (fieldsOf policy structName entries >>= _).warnings = _
    cases hrest : (fieldsOf policy structName entries).result with
    | error e => exact warnings_bind_error hrest
    | ok members => exact (warnings_bind_ok hrest).trans (List.append_nil _)

/-- A field with a type that is refused ends the run. -/
theorem fieldsOf_refused {f : String × String} {e : ExpansionError} (h : fieldOf? entry = some f)
    (htype : fieldType policy f.1 f.2 = .error e) (structName : String) (entries : List Entry) :
    (fieldsOf policy structName (entry :: entries)).result = .error e ∧
      (fieldsOf policy structName (entry :: entries)).warnings = [] := by
  constructor
  · rw [fieldsOf, result_bind, result_fieldOf, h]
    change (ofExcept (fieldType policy f.1 f.2) >>= _).result = _
    rw [htype]
    rfl
  · rw [fieldsOf, warnings_bind_ok (result_fieldOf entry), warnings_fieldOf, h]
    change (ofExcept (fieldType policy f.1 f.2) >>= _).warnings = _
    rw [htype]
    rfl

theorem droppedFrom_cons_none (h : fieldOf? entry = none) (entries : List Entry) :
    droppedFrom structName (entry :: entries) = dropped structName entry :: droppedFrom structName entries := by
  rw [droppedFrom, List.filter_cons_of_pos (by rw [h]; rfl)]
  rfl

theorem droppedFrom_cons_some {f : String × String} (h : fieldOf? entry = some f) (entries : List Entry) :
    droppedFrom structName (entry :: entries) = droppedFrom structName entries := by
  rw [droppedFrom, List.filter_cons_of_neg (by rw [h]; simp), droppedFrom]

/-- Entries of which none has a type that is refused give their members and their warnings ahead of those
of the entries behind them. -/
theorem fieldsOf_append {before : List Entry}
    (h : ∀ f ∈ before.filterMap fieldOf?, ¬ Refuses policy f.2) (structName : String) (rest : List Entry) :
    ∃ members, List.Forall₂ (Member policy) (before.filterMap fieldOf?) members ∧
      (fieldsOf policy structName (before ++ rest)).result =
        (fieldsOf policy structName rest).result.map (members ++ ·) ∧
      (fieldsOf policy structName (before ++ rest)).warnings =
        droppedFrom structName before ++ (fieldsOf policy structName rest).warnings := by
  induction before with
  | nil =>
    refine ⟨[], .nil, ?_, rfl⟩
    rw [List.nil_append]
    cases (fieldsOf policy structName rest).result <;> rfl
  | cons entry before ih =>
    cases hfield : fieldOf? entry with
    | none =>
      rw [List.filterMap_cons_none hfield] at h ⊢
      obtain ⟨members, hmembers, hresult, hwarnings⟩ := ih h
      obtain ⟨hresult', hwarnings'⟩ := fieldsOf_dropped hfield policy structName (before ++ rest)
      refine ⟨members, hmembers, hresult'.trans hresult, ?_⟩
      rw [List.cons_append, hwarnings', hwarnings, droppedFrom_cons_none hfield, List.cons_append]
    | some f =>
      rw [List.filterMap_cons_some hfield] at h ⊢
      obtain ⟨hf, h⟩ := List.forall_mem_cons.1 h
      obtain ⟨members, hmembers, hresult, hwarnings⟩ := ih h
      obtain ⟨type, htype, hmember⟩ := fieldType_of_not_refuses hf
      obtain ⟨hresult', hwarnings'⟩ := fieldsOf_admitted hfield htype structName (before ++ rest)
      refine ⟨.field f.1 type :: members, .cons hmember hmembers, ?_, ?_⟩
      · rw [List.cons_append, hresult', hresult]
        cases (fieldsOf policy structName rest).result <;> rfl
      · rw [List.cons_append, hwarnings', hwarnings, droppedFrom_cons_some hfield]

theorem length_filterMap_add_droppedFrom (structName : String) (entries : List Entry) :
    (entries.filterMap fieldOf?).length + (droppedFrom structName entries).length = entries.length := by
  induction entries with
  | nil => rfl
  | cons entry entries ih =>
    cases hfield : fieldOf? entry with
    | none =>
      rw [List.filterMap_cons_none hfield, droppedFrom_cons_none hfield, List.length_cons, List.length_cons, ← ih]
      rfl
    | some f =>
      rw [List.filterMap_cons_some hfield, droppedFrom_cons_some hfield, List.length_cons, List.length_cons, ← ih]
      omega

theorem misfit_or_takes (v : Invocation) :
    (∃ reason, Misfit v reason) ∨ ∃ structName entries, Takes v structName entries := by
  by_cases hcount : v.arguments.length = 2
  case neg => exact .inl ⟨_, .count hcount⟩
  obtain ⟨name, fields, harguments⟩ := List.length_eq_two.1 hcount
  cases hname : name.value.stringValue? with
  | none => exact .inl ⟨_, .name harguments hname⟩
  | some structName =>
    by_cases hfields : ∃ entries, fields.value = .dictionary entries
    · obtain ⟨entries, hentries⟩ := hfields
      exact .inr ⟨structName, entries, name, fields, harguments, hname, hentries⟩
    · exact .inl ⟨_, .fields harguments hname fun entries hentries => hfields ⟨entries, hentries⟩⟩

theorem generateStruct_misfit {v : Invocation} {reason : String} (h : Misfit v reason) (context : Context) :
    (generateStruct v context).result = .error (.argument v.name reason) ∧
      (generateStruct v context).warnings = [] := by
  cases h with
  | count hcount =>
    unfold generateStruct
    split
    case h_1 harguments => exact absurd (by rw [harguments]; rfl) hcount
    case h_2 => exact ⟨rfl, rfl⟩
  | @name name fields harguments hname =>
    unfold generateStruct
    simp only [harguments]
    rw [result_bind, warnings_bind_ok (result_stringValue name.value), warnings_stringValue,
      result_stringValue, hname]
    exact ⟨rfl, rfl⟩
  | @fields name fields structName harguments hname hfields =>
    unfold generateStruct
    simp only [harguments]
    rw [result_bind, warnings_bind_ok (result_stringValue name.value), warnings_stringValue,
      result_stringValue, hname]
    cases hvalue : fields.value with
    | dictionary entries => exact absurd hvalue (hfields entries)
    | integer _ => exact ⟨rfl, rfl⟩
    | string _ => exact ⟨rfl, rfl⟩
    | identifier _ => exact ⟨rfl, rfl⟩
    | call _ _ => exact ⟨rfl, rfl⟩
    | other _ => exact ⟨rfl, rfl⟩

theorem warnings_generateStruct {v : Invocation} {structName : String} {entries : List Entry}
    (h : Takes v structName entries) (context : Context) : (generateStruct v context).warnings =
      if startsUppercase structName then (fieldsOf context.config.fieldTypes structName entries).warnings
      else [] := by
  obtain ⟨name, fields, harguments, hname, hentries⟩ := h
  unfold generateStruct
  simp only [harguments, hentries]
  rw [warnings_bind_ok (result_stringValue name.value), warnings_stringValue, hname, List.nil_append]
  change (if _ then _ else _ : Expansion (List Declaration)).warnings = _
  split
  case isFalse => rfl
  case isTrue =>
    cases hresult : (fieldsOf context.config.fieldTypes structName entries).result with
    | error e => exact warnings_bind_error hresult
    | ok members =>
      rw [warnings_bind_ok hresult]
      cases members <;> exact List.append_nil _

theorem startsUppercase_iff {name : String} :
    startsUppercase name = true ↔ ∃ c ∈ name.toList.head?, Text.isUppercase c = true := by
  unfold startsUppercase
  cases name.toList <;> simp

/-- A call is checked for its arguments, its name, the first type that is refused, and fields that are left.
The struct has a variable for each field; each other entry is warned of. -/
theorem generateStruct_run (v : Invocation) (context : Context) :
    let run := generateStruct v context
    let policy := context.config.fieldTypes
    ((¬ ∃ structName entries, Takes v structName entries) →
      ∃ reason, Misfit v reason ∧ run.result = .error (.argument v.name reason) ∧ run.warnings = []) ∧
    ∀ structName entries, Takes v structName entries →
      ((¬ ∃ c ∈ structName.toList.head?, Text.isUppercase c = true) →
        run.result = .error (.naming structName) ∧ run.warnings = []) ∧
      ((∃ c ∈ structName.toList.head?, Text.isUppercase c = true) →
        (∀ before entry after field text, entries = before ++ entry :: after →
          fieldOf? entry = some (field, text) → Refuses policy text →
          (∀ f ∈ before.filterMap fieldOf?, ¬ Refuses policy f.2) →
          run.result = .error (.invalidType field text) ∧ run.warnings = droppedFrom structName before) ∧
        ((∀ f ∈ entries.filterMap fieldOf?, ¬ Refuses policy f.2) →
          run.warnings = droppedFrom structName entries ∧
          (entries.filterMap fieldOf? = [] → run.result = .error (.emptyFields v.name structName)) ∧
          (entries.filterMap fieldOf? ≠ [] →
            ∃ members, run.result = .ok [.body .struct structName [] [] members] ∧
              List.Forall₂ (Member policy) (entries.filterMap fieldOf?) members ∧
              members.length + run.warnings.length = entries.length))) := by
  intro run policy
  refine ⟨fun hnone => ?_, fun structName entries htakes => ?_⟩
  · obtain ⟨reason, hreason⟩ := (misfit_or_takes v).resolve_right hnone
    exact ⟨reason, hreason, generateStruct_misfit hreason context⟩
  have hwarnings := warnings_generateStruct htakes context
  obtain ⟨name, fields, harguments, hname, hentries⟩ := htakes
  have hresult := result_generateStruct harguments hname hentries context
  rw [← startsUppercase_iff]
  refine ⟨fun hlower => ?_, fun hupper => ⟨?_, fun hall => ?_⟩⟩
  · rw [if_neg hlower] at hwarnings hresult
    exact ⟨hresult, hwarnings⟩
  · rintro before entry after field text rfl hfield hrefuses hbefore
    rw [if_pos hupper] at hwarnings hresult
    obtain ⟨_, -, hresult', hwarnings'⟩ := fieldsOf_append hbefore structName (entry :: after)
    obtain ⟨hrefused, hnone⟩ := fieldsOf_refused hfield (fieldType_of_refuses hrefuses) structName after
    rw [hresult', hrefused] at hresult
    rw [hwarnings', hnone, List.append_nil] at hwarnings
    exact ⟨hresult, hwarnings⟩
  · rw [if_pos hupper] at hwarnings hresult
    obtain ⟨members, hmembers, hresult', hwarnings'⟩ := fieldsOf_append hall structName []
    rw [List.append_nil] at hresult' hwarnings'
    have hnone : run.warnings = droppedFrom structName entries :=
      hwarnings.trans (hwarnings'.trans (List.append_nil _))
    have hmade : run.result = if members = [] then .error (.emptyFields v.name structName)
        else .ok [.body .struct structName [] [] members] := by
      rw [hresult'.trans (congrArg Except.ok (List.append_nil members))] at hresult
      exact hresult
    refine ⟨hnone, fun hempty => ?_, fun hsome => ⟨members, ?_, hmembers, ?_⟩⟩
    · rw [hempty, List.forall₂_nil_left_iff] at hmembers
      rw [hmade, if_pos hmembers]
    · rw [hmade, if_neg]
      rintro rfl
      exact hsome (List.forall₂_nil_right_iff.1 hmembers)
    · rw [hnone, ← hmembers.length_eq, length_filterMap_add_droppedFrom]

/-- A call with an entry that is no field between two that are, of which the last has no type. -/
def mixedCall : Invocation :=
  ⟨"generateStruct", [.plain (.ofText "Point"), .plain (.ofPairs [(.ofText "x", .ofText "Int"),
    (.integer "1", .ofText "Int"), (.ofText "y", .ofText "[Int")])]⟩

/-- The type is refused behind the warning, or kept as it is spelled. -/
theorem generateStruct_run_mixed :
    ((generateStruct mixedCall { config := { fieldTypes := .descriptor } }).result =
        .error (.invalidType "y" "[Int") ∧
      (generateStruct mixedCall { config := { fieldTypes := .descriptor } }).warnings =
        [.droppedEntry "Point" "1" "integer literal" "\"Int\"" "string literal"]) ∧
    (generateStruct mixedCall {}).result = .ok [.body .struct "Point" [] []
      [.binding ⟨"x", some "Int", none, false, [], []⟩, .binding ⟨"y", some "[Int", none, false, [], []⟩]] := by
  have htakes : Takes mixedCall "Point" [⟨.ofText "x", .ofText "Int"⟩, ⟨.integer "1", .ofText "Int"⟩,
    ⟨.ofText "y", .ofText "[Int"⟩] := ⟨_, _, rfl, by decide, rfl⟩
  have hupper : ∃ c ∈ "Point".toList.head?, Text.isUppercase c = true := ⟨'P', rfl, by decide⟩
  have hrefuses : Refuses .descriptor "[Int" := by
    refine ⟨rfl, fun t ht => ?_⟩
    rw [show TypeDescriptor.parse "[Int" = .error (.invalidType "[Int") by decide +kernel] at ht
    cases ht
  have hint : ¬ Refuses .descriptor "Int" := fun h => h.2 (.primitive .int) (by decide +kernel)
  have hdescriptor := ((generateStruct_run mixedCall { config := { fieldTypes := .descriptor } }).2 _ _ htakes).2
    hupper
  have hraw := ((generateStruct_run mixedCall {}).2 _ _ htakes).2 hupper
  refine ⟨hdescriptor.1 [_, _] _ [] "y" "[Int" rfl (by decide) hrefuses fun f hf => ?_, ?_⟩
  · obtain rfl : f = ("x", "Int") := List.mem_singleton.1 hf
    exact hint
  · obtain ⟨members, hresult, hmembers, -⟩ := (hraw.2 fun f _ h => by cases h.1).2.2 (by decide)
    obtain ⟨_, _, ⟨⟩, hrest, rfl⟩ := List.forall₂_cons_left_iff.1 hmembers
    obtain ⟨_, _, ⟨⟩, hnil, rfl⟩ := List.forall₂_cons_left_iff.1 hrest
    obtain rfl := List.forall₂_nil_left_iff.1 hnil
    exact hresult

end Expander
end SourceMacros

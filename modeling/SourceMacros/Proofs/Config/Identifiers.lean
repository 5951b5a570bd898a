import SourceMacros.Config
import SourceMacros.Proofs.Declaration.RoundTrip
import SourceMacros.Proofs.Json.RoundTrip
import SourceMacros.Proofs.Results

/-! The names that a configuration puts into source are identifiers, or it is not loaded; so the accessor
that is made with them is read back as it was made, `parse_identifiers`. -/

namespace SourceMacros

open Text

namespace Config

theorem requireIdentifier_eq_ok {field value : String} :
    requireIdentifier field value = .ok () ↔ isIdentifier value = true := by
  unfold requireIdentifier
  split <;> simp_all

theorem requireIdentifier_eq_error {field value : String} (h : isIdentifier value = false) :
    requireIdentifier field value = .error (.invalidIdentifier field value) := by
  simp [requireIdentifier, h]

/-- The accessor's name is looked at first, then the attribute if there is one. -/
theorem validate_eq (c : Config) :
    c.validate = (requireIdentifier "singleton.accessor_name" c.singleton.accessorName >>=
      fun _ => c.singleton.executor.elim (.ok ()) (requireIdentifier "singleton.executor_attribute")) := by
  unfold validate
  cases c.singleton.executor <;> rfl

theorem validate_of_name {c : Config} (h : isIdentifier c.singleton.accessorName = true) :
    c.validate =
      c.singleton.executor.elim (.ok ()) (requireIdentifier "singleton.executor_attribute") := by
  rw [validate_eq, requireIdentifier_eq_ok.2 h]
  rfl

theorem validate_of_not_name {c : Config} (h : isIdentifier c.singleton.accessorName = false) :
    c.validate = .error (.invalidIdentifier "singleton.accessor_name" c.singleton.accessorName) := by
  rw [validate_eq, requireIdentifier_eq_error h]
  rfl

theorem validate_eq_ok {c : Config} : c.validate = .ok () ↔
    isIdentifier c.singleton.accessorName = true ∧
      ∀ executor ∈ c.singleton.executor, isIdentifier executor = true := by
  by_cases hname : isIdentifier c.singleton.accessorName = true
  · rw [validate_of_name hname, and_iff_right hname]
    cases c.singleton.executor with
    | none => exact iff_of_true rfl (by simp)
    | some executor =>
      simp only [Option.mem_def, Option.some.injEq, forall_eq']
      exact requireIdentifier_eq_ok
  · rw [validate_of_not_name (by simpa using hname)]
    exact iff_of_false (fun h => by cases h) fun h => hname h.1

theorem parse_eq (text : String) : parse text =
    ((Json.look (ofDraft Json.levels) text).mapError .json >>= fun c => c.validate.map fun _ => c) := rfl

theorem validate_of_parse {text : String} {c : Config} (h : parse text = .ok c) : c.validate = .ok () := by
  obtain ⟨found, -, hfound⟩ := except_bind_eq_ok.1 ((parse_eq text).symm.trans h)
  obtain ⟨_, hvalid, rfl⟩ := except_map_eq_ok.1 hfound
  exact hvalid

/-- Of a text that spells the encoding of a configuration, nothing but its names decides. -/
theorem parse_of_layout (c : Config) {text : String} (h : c.toJson.Layout text.toList) :
    parse text = c.validate.map fun _ => c := by
  have hdepth : c.toJson.depth ≤ Json.levels := by
    have hexecutor : (Json.ofOption Json.string c.singleton.executor).depth = 0 := by
      cases c.singleton.executor <;> rfl
    simp [toJson, SingletonConfig.toJson, Json.depth, Json.membersDepth, hexecutor, Json.levels]
  have hlook : Json.look (ofDraft Json.levels) text = .ok c :=
    (Json.look_of_layout _ h).trans (ofDraft_toJson c hdepth)
  rw [parse_eq, hlook]
  rfl

end Config

namespace Declaration

variable {typeName name : String} {executor : Option String}

theorem wellFormed_accessor (htype : isIdentifier typeName = true) (hname : isIdentifier name = true)
    (hexecutor : ∀ mark ∈ executor, isIdentifier mark = true) :
    (accessor typeName name executor).WellFormed := by
  refine ⟨fun a ha => ?_, hname, by simp, fun e he => ?_⟩
  · obtain ⟨mark, hmark, rfl⟩ := List.mem_map.1 ha
    exact hexecutor mark (Option.mem_toList.1 hmark)
  · obtain rfl := Option.some.inj he
    exact ⟨⟨typeName, rfl, htype⟩, trivial⟩

theorem parse_accessor (htype : isIdentifier typeName = true) (hname : isIdentifier name = true)
    (hexecutor : ∀ mark ∈ executor, isIdentifier mark = true) :
    parse (accessor typeName name executor).render = .ok (accessor typeName name executor) :=
  (wellFormed_accessor htype hname hexecutor).parse_written.1.2 (show 1 ≤ Nesting.limit by decide)

end Declaration

namespace Config

/-- An encoded configuration, however it is laid out, is loaded just where its names are identifiers; else the
first that is none is reported. Accessors of loaded names are read back. -/
theorem parse_identifiers (c : Config) :
    (∀ text : String, text = c.toJson.render ∨ c.toJson.Layout text.toList →
      (parse text = .ok c ↔ isIdentifier c.singleton.accessorName = true ∧
        ∀ mark ∈ c.singleton.executor, isIdentifier mark = true) ∧
      (isIdentifier c.singleton.accessorName = false → parse text =
        .error (.invalidIdentifier "singleton.accessor_name" c.singleton.accessorName)) ∧
      (isIdentifier c.singleton.accessorName = true → ∀ mark ∈ c.singleton.executor,
        isIdentifier mark = false → parse text =
          .error (.invalidIdentifier "singleton.executor_attribute" mark))) ∧
    ∀ text : String, parse text = .ok c → ∀ typeName : String, isIdentifier typeName = true →
      Declaration.parse
          (Declaration.accessor typeName c.singleton.accessorName c.singleton.executor).render =
        .ok (Declaration.accessor typeName c.singleton.accessorName c.singleton.executor) := by
  constructor
  · intro text htext
    have hlayout : c.toJson.Layout text.toList := by
      rcases htext with rfl | hlayout
      · exact Json.layout_render c.small_toJson
      · exact hlayout
    rw [parse_of_layout c hlayout, ← validate_eq_ok]
    refine ⟨?_, fun hname => ?_, fun hname mark hmark hnot => ?_⟩
    · cases c.validate <;> simp [Except.map]
    · rw [validate_of_not_name hname]
      rfl
    · rw [validate_of_name hname, Option.mem_def.1 hmark, Option.elim_some,
        requireIdentifier_eq_error hnot]
      rfl
  · intro text h typeName htype
    obtain ⟨hname, hexecutor⟩ := validate_eq_ok.1 (validate_of_parse h)
    exact Declaration.parse_accessor htype hname hexecutor

/-- The names of a keyword and of a modifier are names like others; where both names are none, the accessor's
is reported. -/
theorem parse_identifiers_keywords :
    parse ({ singleton := { accessorName := "let", executor := some "public" } } : Config).toJson.render =
      .ok { singleton := { accessorName := "let", executor := some "public" } } ∧
    Declaration.parse "@public public static let let = A()" =
      .ok (Declaration.accessor "A" "let" (some "public")) ∧
    parse ({ singleton := { accessorName := "a b", executor := some "c-d" } } : Config).toJson.render =
      .error (.invalidIdentifier "singleton.accessor_name" "a b") ∧
    parse ({ singleton := { executor := some "c-d" } } : Config).toJson.render =
      .error (.invalidIdentifier "singleton.executor_attribute" "c-d") := by
  have hrender : (Declaration.accessor "A" "let" (some "public")).render =
      "@public public static let let = A()" := by cbv
  have hparse := ((parse_identifiers
    { singleton := { accessorName := "let", executor := some "public" } }).1 _ (.inl rfl)).1.2 (by decide)
  have haccessor := (parse_identifiers _).2 _ hparse "A" (by decide)
  rw [← hrender]
  exact ⟨hparse, haccessor, ((parse_identifiers _).1 _ (.inl rfl)).2.1 (by decide),
    ((parse_identifiers _).1 _ (.inl rfl)).2.2 (by decide) "c-d" rfl (by decide)⟩

end Config
end SourceMacros

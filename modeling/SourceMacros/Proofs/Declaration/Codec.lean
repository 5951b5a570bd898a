import SourceMacros.Declaration.Json
import SourceMacros.Proofs.Expression.Codec

/-! Declarations and attributes are decoded from what they are encoded to, `Declaration.ofDraft_toJson` and
`Attribute.ofDraft_toJson`. -/

namespace SourceMacros

open Json

section Small

theorem itemsSmall_map {α : Type} {encode : α → Json} (h : ∀ a, (encode a).Small) :
    (as : List α) → ItemsSmall (as.map encode)
  | [] => trivial
  | a :: as => ⟨h a, itemsSmall_map h as⟩

theorem small_ofOption {α : Type} {encode : α → Json} (h : ∀ a, (encode a).Small) (o : Option α) :
    (Json.ofOption encode o).Small := by
  cases o with
  | none => trivial
  | some a => exact h a

theorem small_ofOption_string (o : Option String) : (Json.ofOption .string o).Small := by
  cases o <;> trivial

theorem Modifier.small_toJson (m : Modifier) : m.toJson.Small := trivial

theorem Attribute.small_toJson (a : Attribute) : a.toJson.Small := ⟨trivial, trivial⟩

theorem Binding.small_toJson (b : Binding) : b.toJson.Small :=
  ⟨trivial, trivial, small_ofOption_string _, small_ofOption Expression.small_toJson _, trivial,
    itemsSmall_map Modifier.small_toJson _, itemsSmall_map Attribute.small_toJson _, trivial⟩

mutual

theorem Declaration.small_toJson : (d : Declaration) → d.toJson.Small
  | .binding b => b.small_toJson
  | .body _ _ modifiers attributes members =>
    ⟨trivial, trivial, itemsSmall_map Modifier.small_toJson modifiers,
      itemsSmall_map Attribute.small_toJson attributes, declarations_small members, trivial⟩

theorem declarations_small : (ds : List Declaration) → ItemsSmall (declarationsToJson ds)
  | [] => trivial
  | d :: ds => ⟨d.small_toJson, declarations_small ds⟩

end

end Small

theorem Modifier.ofJson?_toJson (m : Modifier) : Modifier.ofJson? m.toJson = some m := by
  cases m <;> rfl

theorem Attribute.ofJson?_toJson (a : Attribute) : Attribute.ofJson? a.toJson = some a := rfl

theorem Expression.ofJson?_toJson (e : Expression) : Expression.ofJson? e.toJson = some e :=
  e.decoded.ofJsonWithin (Nat.lt_succ_self _)

/-- What may be absent is decoded as it is, if nothing that may be present is encoded as null. -/
theorem absentOr?_ofOption {α : Type} {encode : α → Json} {decode : Json → Option α}
    (h : ∀ a, decode (encode a) = some a) (hnull : ∀ a, encode a ≠ .null) (o : Option α) :
    absentOr? decode (some (ofOption encode o)) = some o := by
  cases o with
  | none => rfl
  | some a =>
    change (encode a).optional? decode = _
    rw [optional?]
    · rw [h]
      rfl
    · exact hnull a

theorem Expression.toJson_ne_null (e : Expression) : e.toJson ≠ .null := by
  cases e <;> exact Json.noConfusion

theorem Binding.ofJson?_others (b : Binding) :
    Binding.ofJson? (.object [("name", .string b.name), ("type_annotation", .ofOption .string b.typeText),
      ("initializer", .ofOption Expression.toJson b.initializer), ("is_constant", .bool b.isConstant),
      ("modifiers", .array (b.modifiers.map Modifier.toJson)),
      ("attributes", .array (b.attributes.map Attribute.toJson))]) = some b := by
  have hstring : ∀ text : String, string? (.string text) = some text := fun _ => rfl
  have htype := absentOr?_ofOption hstring (fun _ => Json.noConfusion) b.typeText
  have hinitializer := absentOr?_ofOption Expression.ofJson?_toJson Expression.toJson_ne_null b.initializer
  have hmodifiers := list?_map Modifier.ofJson?_toJson b.modifiers
  have hattributes := list?_map Attribute.ofJson?_toJson b.attributes
  change (absentOr? string? (some (ofOption .string b.typeText)) >>= fun typeText =>
    absentOr? Expression.ofJson? (some (ofOption Expression.toJson b.initializer)) >>= fun initializer =>
      (Json.array (b.modifiers.map Modifier.toJson)).list? Modifier.ofJson? >>= fun modifiers =>
        (Json.array (b.attributes.map Attribute.toJson)).list? Attribute.ofJson? >>= fun attributes =>
          some (Binding.mk b.name typeText initializer b.isConstant modifiers attributes)) = _
  rw [htype, hinitializer, hmodifiers, hattributes]
  rfl

def Declaration.Decoded (d : Declaration) : Prop :=
  Json.Decoded "kind" Declaration.kinds (fun n => Declaration.ofKind? (Declaration.ofJsonWithin n))
    d.toJson d

theorem Declaration.Decoded.ofJsonWithin {d : Declaration} (h : d.Decoded) {n : Nat}
    (hn : d.toJson.depth < n) : Declaration.ofJsonWithin n d.toJson = some d := by
  obtain ⟨n, rfl⟩ := Nat.exists_eq_succ_of_ne_zero (Nat.ne_zero_of_lt hn)
  exact h.within (Nat.le_of_lt_succ hn)

theorem Declaration.bodyOf?_eq {inner : Json → Option Declaration} {js : List Json}
    {members : List Declaration} (h : js.mapM inner = some members) (kind : BodyKind) (name : String)
    (modifiers : List Modifier) (attributes : List Attribute) :
    Declaration.bodyOf? inner kind (.string name) (.array (modifiers.map Modifier.toJson))
      (.array (attributes.map Attribute.toJson)) (.array js) =
        some (.body kind name modifiers attributes members) := by
  have hmodifiers := list?_map Modifier.ofJson?_toJson modifiers
  have hattributes := list?_map Attribute.ofJson?_toJson attributes
  have hmembers : (Json.array js).list? inner = some members := h
  rw [Declaration.bodyOf?, hmodifiers, hattributes, hmembers]
  rfl

mutual

theorem Declaration.decoded : (d : Declaration) → d.Decoded
  | .binding b => by
    refine ⟨0, _, ⟨⟨_, rfl, by decide⟩, by simp⟩, fun n _ => ?_⟩
    change (Binding.ofJson? _).map Declaration.binding = _
    rw [b.ofJson?_others]
    rfl
  | .body kind name modifiers attributes members => by
    have hmembers {n : Nat} (hn : (Json.object [("name", .string name),
        ("modifiers", .array (modifiers.map Modifier.toJson)),
        ("attributes", .array (attributes.map Attribute.toJson)),
        ("members", .array (declarationsToJson members))]).depth ≤ n) :=
      Declaration.bodyOf?_eq (declarations_decoded members (n := n)
        (by simp only [Json.depth, Json.membersDepth] at hn; omega)) kind name modifiers attributes
    cases kind with
    | struct => exact ⟨1, _, ⟨⟨_, rfl, by decide⟩, by simp⟩, fun n hn => hmembers hn⟩
    | reference => exact ⟨2, _, ⟨⟨_, rfl, by decide⟩, by simp⟩, fun n hn => hmembers hn⟩

theorem declarations_decoded : (ds : List Declaration) → {n : Nat} →
    itemsDepth (declarationsToJson ds) < n →
    (declarationsToJson ds).mapM (Declaration.ofJsonWithin n) = some ds
  | [], _, _ => rfl
  | d :: ds, n, h => by
    obtain ⟨hd, hds⟩ := Nat.max_lt.1 h
    rw [declarationsToJson, List.mapM_cons, d.decoded.ofJsonWithin hd, declarations_decoded ds hds]
    rfl

end

theorem Declaration.ofDraft_toJson (d : Declaration) {levels : Nat} (h : d.toJson.depth ≤ levels) :
    Declaration.ofDraft levels d.toJson.draft = .ok d :=
  d.decoded.ofDraft h

theorem Attribute.ofDraft_toJson (a : Attribute) {levels : Nat} (h : a.toJson.depth ≤ levels) :
    Attribute.ofDraft levels a.toJson.draft = .ok a := by
  obtain ⟨levels, rfl⟩ := Nat.exists_eq_succ_of_ne_zero (Nat.ne_zero_of_lt h)
  rfl

end SourceMacros

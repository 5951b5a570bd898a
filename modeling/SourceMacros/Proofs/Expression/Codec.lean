import SourceMacros.Expression.Json
import SourceMacros.Proofs.Json.Drafts
import SourceMacros.Proofs.Json.Spelled

/-! Expressions and calls are decoded from what they are encoded to, `Expression.ofDraft_toJson` and
`Invocation.ofDraft_toJson`. -/

namespace SourceMacros

open Json

section Small

mutual

theorem Expression.small_toJson : (e : Expression) → e.toJson.Small
  | .integer _ | .identifier _ | .other _ => ⟨trivial, trivial, trivial⟩
  | .string segments => ⟨trivial, segments_small segments, trivial⟩
  | .dictionary entries => ⟨trivial, entries_small entries, trivial⟩
  | .call callee arguments => ⟨trivial, callee.small_toJson, arguments_small arguments, trivial⟩

theorem segments_small : (segments : List Segment) → ItemsSmall (segmentsToJson segments)
  | [] => trivial
  | .text _ :: segments => ⟨⟨trivial, trivial, trivial⟩, segments_small segments⟩
  | .interpolation value :: segments => ⟨⟨trivial, value.small_toJson, trivial⟩, segments_small segments⟩

theorem entries_small : (entries : List Entry) → ItemsSmall (entriesToJson entries)
  | [] => trivial
  | ⟨key, value⟩ :: entries => ⟨⟨key.small_toJson, value.small_toJson, trivial⟩, entries_small entries⟩

theorem arguments_small : (arguments : List Argument) → ItemsSmall (argumentsToJson arguments)
  | [] => trivial
  | ⟨none, value⟩ :: arguments => ⟨⟨trivial, value.small_toJson, trivial⟩, arguments_small arguments⟩
  | ⟨some _, value⟩ :: arguments => ⟨⟨trivial, value.small_toJson, trivial⟩, arguments_small arguments⟩

end

theorem Invocation.small_toJson (v : Invocation) : v.toJson.Small :=
  ⟨trivial, arguments_small v.arguments, trivial⟩

end Small

section Decoded

def Expression.Decoded (e : Expression) : Prop :=
  Json.Decoded "kind" Expression.kinds (fun n => Expression.ofKind? (Expression.ofJsonWithin n)) e.toJson e

theorem Expression.Decoded.ofJsonWithin {e : Expression} (h : e.Decoded) {n : Nat}
    (hn : e.toJson.depth < n) : Expression.ofJsonWithin n e.toJson = some e := by
  obtain ⟨n, rfl⟩ := Nat.exists_eq_succ_of_ne_zero (Nat.ne_zero_of_lt hn)
  exact h.within (Nat.le_of_lt_succ hn)

section Parts

variable {inner : Json → Option Expression} {j k : Json} {e f : Expression}

theorem Segment.ofJson?_interpolation (h : inner j = some e) :
    Segment.ofJson? inner (.ofKind "interpolation" "value" j) = some (.interpolation e) := by
  change (inner j >>= fun value => some (Segment.interpolation value)) = _
  rw [h]
  rfl

theorem Entry.ofJson?_object (hj : inner j = some e) (hk : inner k = some f) :
    Entry.ofJson? inner (.object [("key", j), ("value", k)]) = some ⟨e, f⟩ := by
  change (inner j >>= fun key => inner k >>= fun value => some (Entry.mk key value)) = _
  rw [hj, hk]
  rfl

theorem Argument.ofJson?_object (label : Option String) (h : inner j = some e) :
    Argument.ofJson? inner (.object [("label", .ofOption .string label), ("expression", j)]) =
      some ⟨label, e⟩ := by
  cases label with
  | none =>
    change (inner j >>= fun value => some (Argument.mk none value)) = _
    rw [h]
    rfl
  | some label =>
    change (inner j >>= fun value => some (Argument.mk (some label) value)) = _
    rw [h]
    rfl

end Parts

mutual

theorem Expression.decoded : (e : Expression) → e.Decoded
  | .integer text =>
    ⟨0, [("text", .string text)], ⟨⟨_, rfl, by decide⟩, by simp⟩, fun _ _ => rfl⟩
  | .string segments => by
    refine ⟨1, [("segments", .array (segmentsToJson segments))], ⟨⟨_, rfl, by decide⟩, by simp⟩,
      fun n hn => ?_⟩
    simp only [Json.depth, Json.membersDepth] at hn
    have hsegments := segments_decoded segments (n := n) (by omega)
    change ((segmentsToJson segments).mapM (Segment.ofJson? (Expression.ofJsonWithin n)) >>=
      fun segments => some (Expression.string segments)) = _
    rw [hsegments]
    rfl
  | .dictionary entries => by
    refine ⟨2, [("entries", .array (entriesToJson entries))], ⟨⟨_, rfl, by decide⟩, by simp⟩,
      fun n hn => ?_⟩
    simp only [Json.depth, Json.membersDepth] at hn
    have hentries := entries_decoded entries (n := n) (by omega)
    change ((entriesToJson entries).mapM (Entry.ofJson? (Expression.ofJsonWithin n)) >>=
      fun entries => some (Expression.dictionary entries)) = _
    rw [hentries]
    rfl
  | .identifier name =>
    ⟨3, [("name", .string name)], ⟨⟨_, rfl, by decide⟩, by simp⟩, fun _ _ => rfl⟩
  | .call callee arguments => by
    refine ⟨4, [("callee", callee.toJson), ("arguments", .array (argumentsToJson arguments))],
      ⟨⟨_, rfl, by decide⟩, by simp⟩, fun n hn => ?_⟩
    simp only [Json.depth, Json.membersDepth] at hn
    have hcallee := callee.decoded.ofJsonWithin (n := n) (by omega)
    have harguments := arguments_decoded arguments (n := n) (by omega)
    change (Expression.ofJsonWithin n callee.toJson >>= fun callee =>
      (argumentsToJson arguments).mapM (Argument.ofJson? (Expression.ofJsonWithin n)) >>=
        fun arguments => some (Expression.call callee arguments)) = _
    rw [hcallee, harguments]
    rfl
  | .other text =>
    ⟨5, [("text", .string text)], ⟨⟨_, rfl, by decide⟩, by simp⟩, fun _ _ => rfl⟩

theorem segments_decoded : (segments : List Segment) → {n : Nat} →
    itemsDepth (segmentsToJson segments) ≤ n →
    (segmentsToJson segments).mapM (Segment.ofJson? (Expression.ofJsonWithin n)) = some segments
  | [], _, _ => rfl
  | .text value :: segments, n, h => by
    obtain ⟨-, hrest⟩ := Nat.max_le.1 h
    rw [segmentsToJson, List.mapM_cons, segments_decoded segments hrest]
    rfl
  | .interpolation value :: segments, n, h => by
    obtain ⟨hfirst, hrest⟩ := Nat.max_le.1 h
    simp only [ofKind, Json.depth, Json.membersDepth] at hfirst
    have hvalue := value.decoded.ofJsonWithin (n := n) (by omega)
    rw [segmentsToJson, List.mapM_cons, Segment.ofJson?_interpolation hvalue,
      segments_decoded segments hrest]
    rfl

theorem entries_decoded : (entries : List Entry) → {n : Nat} →
    itemsDepth (entriesToJson entries) ≤ n →
    (entriesToJson entries).mapM (Entry.ofJson? (Expression.ofJsonWithin n)) = some entries
  | [], _, _ => rfl
  | ⟨key, value⟩ :: entries, n, h => by
    obtain ⟨hfirst, hrest⟩ := Nat.max_le.1 h
    simp only [Json.depth, Json.membersDepth] at hfirst
    have hkey := key.decoded.ofJsonWithin (n := n) (by omega)
    have hvalue := value.decoded.ofJsonWithin (n := n) (by omega)
    rw [entriesToJson, List.mapM_cons, Entry.ofJson?_object hkey hvalue, entries_decoded entries hrest]
    rfl

theorem arguments_decoded : (arguments : List Argument) → {n : Nat} →
    itemsDepth (argumentsToJson arguments) ≤ n →
    (argumentsToJson arguments).mapM (Argument.ofJson? (Expression.ofJsonWithin n)) = some arguments
  | [], _, _ => rfl
  | ⟨label, value⟩ :: arguments, n, h => by
    obtain ⟨hfirst, hrest⟩ := Nat.max_le.1 h
    simp only [Json.depth, Json.membersDepth] at hfirst
    have hvalue := value.decoded.ofJsonWithin (n := n) (by omega)
    rw [argumentsToJson, List.mapM_cons, Argument.ofJson?_object label hvalue,
      arguments_decoded arguments hrest]
    rfl

end

end Decoded

section Drafts

theorem Expression.ofDraft_toJson (e : Expression) {levels : Nat} (h : e.toJson.depth ≤ levels) :
    Expression.ofDraft levels e.toJson.draft = .ok e :=
  e.decoded.ofDraft h

theorem Argument.ofDraft_object (label : Option String) (value : Expression) {levels : Nat}
    (h : value.toJson.depth ≤ levels) :
    Argument.ofDraft (levels + 1)
      (Json.object [("label", .ofOption .string label), ("expression", value.toJson)]).draft =
        .ok ⟨label, value⟩ := by
  have hlabel : Draft.readOptional Draft.readString (Json.ofOption .string label).draft = .ok label := by
    cases label <;> rfl
  have hrecord : Draft.readRecord Argument.fields false {} (levels + 1)
      (Json.object [("label", .ofOption .string label), ("expression", value.toJson)]).draft =
        .ok ⟨label, some value⟩ := by
    refine readRecord_object ?_
    rw [memberDrafts, members_put (⟨label, none⟩ : Argument.Known) rfl rfl, memberDrafts,
      members_put (⟨label, some value⟩ : Argument.Known) rfl rfl]
    · rfl
    · change (Expression.ofDraft levels value.toJson.draft >>= _) = _
      rw [value.ofDraft_toJson h]
      rfl
    · change (Draft.readOptional Draft.readString (Json.ofOption .string label).draft >>= _) = _
      rw [hlabel]
      rfl
  rw [Argument.ofDraft, hrecord]
  rfl

theorem arguments_ofDraft : (arguments : List Argument) → {levels : Nat} →
    itemsDepth (argumentsToJson arguments) ≤ levels →
    (itemDrafts (argumentsToJson arguments)).mapM (Argument.ofDraft levels) = .ok arguments
  | [], _, _ => rfl
  | ⟨label, value⟩ :: arguments, levels, h => by
    obtain ⟨hfirst, hrest⟩ := Nat.max_le.1 h
    obtain ⟨levels, rfl⟩ := Nat.exists_eq_succ_of_ne_zero (Nat.ne_zero_of_lt hfirst)
    simp only [Json.depth, Json.membersDepth] at hfirst
    rw [argumentsToJson, itemDrafts, List.mapM_cons, Argument.ofDraft_object label value (by omega),
      arguments_ofDraft arguments hrest]
    rfl

theorem Invocation.ofDraft_toJson (v : Invocation) {levels : Nat} (h : v.toJson.depth ≤ levels) :
    Invocation.ofDraft levels v.toJson.draft = .ok v := by
  obtain ⟨name, arguments⟩ := v
  have hdepth : itemsDepth (argumentsToJson arguments) + 2 ≤ levels := by
    simp only [Invocation.toJson, Json.depth, Json.membersDepth] at h
    omega
  obtain ⟨levels, rfl⟩ : ∃ n, levels = n + 2 := ⟨levels - 2, by omega⟩
  have hitems : (itemDrafts (argumentsToJson arguments)).mapM (Argument.ofDraft levels) = .ok arguments :=
    arguments_ofDraft arguments (by omega)
  have hrecord : Draft.readRecord Invocation.fields false {} (levels + 2)
      (Invocation.toJson ⟨name, arguments⟩).draft = .ok ⟨some name, some arguments⟩ := by
    refine readRecord_object ?_
    rw [memberDrafts, members_put (⟨some name, none⟩ : Invocation.Known) rfl rfl rfl, memberDrafts,
      members_put (⟨some name, some arguments⟩ : Invocation.Known) rfl rfl]
    · rfl
    · change (Draft.readList Argument.ofDraft (levels + 1) (Json.array (argumentsToJson arguments)).draft >>=
        _) = _
      rw [readList_array hitems]
      rfl
  rw [Invocation.ofDraft, hrecord]
  rfl

end Drafts

end SourceMacros

import SourceMacros.Proofs.Json.Drafts
import SourceMacros.Proofs.Json.Spelled
import SourceMacros.TypeDescriptor.Json

/-! Descriptions of types are decoded from what they are encoded to, `TypeDescriptor.ofDraft_toJson`. -/

namespace SourceMacros

open Json

theorem PrimitiveType.ofDraft_toJson (p : PrimitiveType) (levels : Nat) :
    PrimitiveType.ofDraft levels p.toJson.draft = .ok p := by
  cases p <;> rfl

namespace TypeDescriptor

theorem small_toJson (t : TypeDescriptor) : t.toJson.Small := by
  induction t with
  | primitive | custom => exact ⟨trivial, trivial, trivial⟩
  | optional wrapped ih => exact ⟨trivial, ih, trivial⟩
  | array element ih => exact ⟨trivial, ih, trivial⟩
  | dictionary key value ih ih' => exact ⟨trivial, ⟨ih, ih', trivial⟩, trivial⟩

theorem ofDraftWithin_object {kind : String} {i n levels : Nat} {content : Json} {t : TypeDescriptor}
    (hkind : kinds.idxOf? kind = some i)
    (h : readContent (ofDraftWithin n) levels i content.draft = .ok t) :
    ofDraftWithin (n + 1) (levels + 1) (object kind content).draft = .ok t := by
  have hword : Draft.readWord kinds levels (.string kind) = .ok i := by
    rw [Draft.readWord, Draft.index, hkind]
  have hmembers : ofMembers (ofDraftWithin n) levels .closed
      [(some "kind", .string kind), (some "of", content.draft)] = .ok t := by
    rw [ofMembers, if_pos rfl, hword]
    change afterKind (ofDraftWithin n) levels i .closed [(some "of", content.draft)] = _
    rw [afterKind, if_neg (by decide), if_pos rfl, h]
    rfl
  change (ofMembers (ofDraftWithin n) levels .closed
    [(some "kind", .string kind), (some "of", content.draft)] >>= _) = _
  rw [hmembers]
  rfl

theorem depth_object (kind : String) (content : Json) :
    (object kind content).depth = content.depth + 1 := by
  simp [object, Json.depth, Json.membersDepth]

/-- The two bounds are those of the description and of the text, of which the first is never met. -/
theorem ofDraftWithin_toJson (t : TypeDescriptor) {n levels : Nat} (hn : t.toJson.depth ≤ n)
    (hlevels : t.toJson.depth ≤ levels) : ofDraftWithin n levels t.toJson.draft = .ok t := by
  have hsucc : ∀ {d m : Nat}, d + 1 ≤ m → ∃ k, m = k + 1 ∧ d ≤ k := fun {d m} h =>
    ⟨m - 1, by omega, by omega⟩
  induction t generalizing n levels with
  | primitive p =>
    obtain ⟨n, rfl, -⟩ := hsucc hn
    obtain ⟨levels, rfl, -⟩ := hsucc hlevels
    refine ofDraftWithin_object (i := 0) (by decide) ?_
    rw [readContent, p.ofDraft_toJson]
    rfl
  | custom name =>
    obtain ⟨n, rfl, -⟩ := hsucc hn
    obtain ⟨levels, rfl, -⟩ := hsucc hlevels
    exact ofDraftWithin_object (i := 1) (by decide) rfl
  | optional wrapped ih =>
    rw [toJson, depth_object] at hn hlevels
    obtain ⟨n, rfl, hwithin⟩ := hsucc hn
    obtain ⟨levels, rfl, hleft⟩ := hsucc hlevels
    refine ofDraftWithin_object (i := 2) (by decide) ?_
    rw [readContent, ih hwithin hleft]
    rfl
  | array element ih =>
    rw [toJson, depth_object] at hn hlevels
    obtain ⟨n, rfl, hwithin⟩ := hsucc hn
    obtain ⟨levels, rfl, hleft⟩ := hsucc hlevels
    refine ofDraftWithin_object (i := 3) (by decide) ?_
    rw [readContent, ih hwithin hleft]
    rfl
  | dictionary key value ih ih' =>
    rw [toJson, depth_object, Json.depth, itemsDepth, itemsDepth, itemsDepth] at hn hlevels
    obtain ⟨n, rfl, hwithin⟩ := hsucc hn
    obtain ⟨_, rfl, hinside⟩ := hsucc hlevels
    obtain ⟨levels, rfl, hleft⟩ := hsucc hinside
    refine ofDraftWithin_object (i := 4) (by decide) ?_
    have hkey : ofDraftWithin n levels key.toJson.draft = .ok key := ih (by omega) (by omega)
    have hvalue : ofDraftWithin n levels value.toJson.draft = .ok value := ih' (by omega) (by omega)
    change (ofDraftWithin n levels key.toJson.draft >>= fun key =>
      ofDraftWithin n levels value.toJson.draft >>= fun value =>
        .ok (TypeDescriptor.dictionary key value)) = _
    rw [hkey, hvalue]
    rfl

theorem ofDraft_toJson (t : TypeDescriptor) {levels : Nat} (h : t.toJson.depth ≤ levels) :
    ofDraft levels t.toJson.draft = .ok t :=
  ofDraftWithin_toJson t (h.trans (Nat.le_succ levels)) h

end TypeDescriptor
end SourceMacros

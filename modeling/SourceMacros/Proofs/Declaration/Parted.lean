import SourceMacros.Proofs.Declaration.Verbatim
import SourceMacros.Proofs.Expression.Parted

/-! What is written for a declaration that was read: the texts are as they have to be,
`Declaration.Spelled.kept`, and its verbatim texts stop where they stopped before,
`Declaration.Spelled.parted`. -/

namespace SourceMacros

open Text Reader

/-- A text of a type is as it has to be, or empty. -/
def KeptType (text : String) : Prop := text.toList ≠ [] → IsTypeText text

theorem TypeSpelled.kept {text : String} {t c : List Char} (h : TypeSpelled (some text) t c) :
    KeptType text := by
  obtain ⟨g, k, b, -, -, -, -, -, hin, hhead, hended, -⟩ := h
  intro hne
  refine ⟨hne, fun k hk => hin k (List.mem_append_left _ hk), fun k hk => hhead k ?_, hended⟩
  rw [List.head?_append, Option.mem_def.1 hk]
  rfl

theorem Declaration.Shaped.typed {other : String → Prop} {d : Declaration}
    (h : d.Shaped other KeptType) (hd : ∀ text ∈ d.types, text ≠ "") : d.Shaped other IsTypeText := by
  refine Declaration.Shaped.mono d (fun text ht htext => htext ?_) h
  simpa using hd text ht

section Spelled

mutual

theorem Declaration.Spelled.kept : (d : Declaration) → {s c : List Char} →
    d.Spelled Verbatim s c → d.Shaped Kept KeptType
  | .binding _, _, _, ⟨_, _, _, _, _, ht, hi, hattributes, hname⟩ => by
    refine ⟨hattributes, hname, fun text htext => ?_, fun e he => ?_⟩
    · rw [Option.mem_def.1 htext] at ht
      exact ht.kept
    · rw [Option.mem_def.1 he] at hi
      obtain ⟨_, _, _, _, _, _, hu, _⟩ := hi
      exact Expression.Spelled.kept e hu
  | .body _ _ _ _ members, _, _, ⟨_, _, _, _, _, _, ht, hattributes, hname⟩ =>
    ⟨hattributes, hname, MembersSpelled.kept members ht⟩

theorem MembersSpelled.kept : (ds : List Declaration) → {t c : List Char} →
    MembersSpelled Verbatim ds t c → MembersShaped Kept KeptType ds
  | [], _, _, _ => trivial
  | d :: ds, _, _, ⟨_, _, _, _, _, _, hd, ht⟩ =>
    ⟨Declaration.Spelled.kept d hd, MembersSpelled.kept ds ht⟩

end

theorem MembersSpelled.ne_nil {verbatim : String → List Char → List Char → Prop}
    {ds : List Declaration} {t c : List Char} (h : MembersSpelled verbatim ds t c) : t ≠ [] := by
  cases ds with
  | nil =>
    obtain ⟨m, -, rfl⟩ := h
    simp
  | cons d ds =>
    obtain ⟨m, u, t', -, rfl, -, hd, -⟩ := h
    obtain ⟨g, k, v, -, rfl, -⟩ := hd.first
    simp

mutual

theorem Declaration.Spelled.parted : (d : Declaration) → (depth : Nat) → {s c k : List Char} →
    d.Spelled Verbatim s c → Stops k → (c = [] → k = []) →
    ∀ p ∈ d.verbatimsAt depth k, Parted p
  | .binding b, _, s, c, k, ⟨_, _, _, _, _, _, hi, _⟩, hk, hck, p, hp => by
    cases hinit : b.initializer with
    | none => simp [Declaration.verbatimsAt, hinit] at hp
    | some e =>
      rw [hinit] at hi
      obtain ⟨_, _, _, _, _, _, hu, _⟩ := hi
      exact Expression.Spelled.parted e hu hk hck p (by simpa [Declaration.verbatimsAt, hinit] using hp)
  | .body _ _ _ _ members, depth, _, _, _, ⟨_, _, _, _, _, _, ht, _⟩, _, _, p, hp =>
    MembersSpelled.parted members (depth + 1) ht p hp

theorem MembersSpelled.parted : (ds : List Declaration) → (depth : Nat) → {t c k : List Char} →
    MembersSpelled Verbatim ds t c → ∀ p ∈ memberVerbatims depth ds k, Parted p
  | [], _, _, _, _, _, p, hp => by simp [memberVerbatims] at hp
  | d :: ds, depth, _, _, _, ⟨_, _, _, _, _, _, hd, ht⟩, p, hp => by
    rcases List.mem_append.1 hp with hp | hp
    · exact Declaration.Spelled.parted d depth hd (stops_cons (by decide)) (by simp [ht.ne_nil]) p hp
    · exact MembersSpelled.parted ds depth ht p hp

end

end Spelled

end SourceMacros

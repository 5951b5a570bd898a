import SourceMacros.Proofs.Declaration.Spelled
import SourceMacros.Proofs.Expression.Verbatim

/-! The texts in a declaration that are kept as they are spelled: the verbatim parts of its initializers,
`Declaration.others`, and its types, `Declaration.types`. -/

namespace SourceMacros

open Text Reader

mutual

def Declaration.others : Declaration → List String
  | .binding b => b.initializer.elim [] Expression.others
  | .body _ _ _ _ members => memberOthers members

def memberOthers : List Declaration → List String
  | [] => []
  | d :: ds => d.others ++ memberOthers ds

end

mutual

def Declaration.types : Declaration → List String
  | .binding b => b.typeText.toList
  | .body _ _ _ _ members => memberTypes members

def memberTypes : List Declaration → List String
  | [] => []
  | d :: ds => d.types ++ memberTypes ds

end

section Shaped

variable {other type other' type' : String → Prop}

mutual

theorem Declaration.Shaped.others : (d : Declaration) → d.Shaped other type →
    ∀ text ∈ d.others, other text
  | .binding b, ⟨_, _, _, h⟩, text, ht => by
    cases hinit : b.initializer with
    | none => simp [Declaration.others, hinit] at ht
    | some e => exact Expression.Shaped.others e (h e hinit) text (by simpa [Declaration.others, hinit] using ht)
  | .body _ _ _ _ members, ⟨_, _, h⟩, text, ht => MembersShaped.others members h text ht

theorem MembersShaped.others : (ds : List Declaration) → MembersShaped other type ds →
    ∀ text ∈ memberOthers ds, other text
  | [], _, text, ht => by simp [memberOthers] at ht
  | d :: ds, ⟨hd, hds⟩, text, ht => by
    rcases List.mem_append.1 ht with ht | ht
    · exact Declaration.Shaped.others d hd text ht
    · exact MembersShaped.others ds hds text ht

end

mutual

theorem Declaration.Shaped.types : (d : Declaration) → d.Shaped other type →
    ∀ text ∈ d.types, type text
  | .binding _, ⟨_, _, h, _⟩, text, ht => h text (by simpa [Declaration.types] using ht)
  | .body _ _ _ _ members, ⟨_, _, h⟩, text, ht => MembersShaped.types members h text ht

theorem MembersShaped.types : (ds : List Declaration) → MembersShaped other type ds →
    ∀ text ∈ memberTypes ds, type text
  | [], _, text, ht => by simp [memberTypes] at ht
  | d :: ds, ⟨hd, hds⟩, text, ht => by
    rcases List.mem_append.1 ht with ht | ht
    · exact Declaration.Shaped.types d hd text ht
    · exact MembersShaped.types ds hds text ht

end

mutual

/-- What follows a verbatim text where it is written stops it. -/
theorem Declaration.Shaped.verbatims : (d : Declaration) → (depth : Nat) → {c : List Char} →
    d.Shaped other type → Stops c → ∀ p ∈ d.verbatimsAt depth c, other p.1 ∧ Stops p.2
  | .binding b, _, c, ⟨_, _, _, h⟩, hc, p, hp => by
    cases hinit : b.initializer with
    | none => simp [Declaration.verbatimsAt, hinit] at hp
    | some e =>
      exact Expression.Shaped.verbatims e (h e hinit) hc p
        (by simpa [Declaration.verbatimsAt, hinit] using hp)
  | .body _ _ _ _ members, depth, c, ⟨_, _, h⟩, _, p, hp =>
    MembersShaped.verbatims members (depth + 1) h p hp

theorem MembersShaped.verbatims : (ds : List Declaration) → (depth : Nat) → {c : List Char} →
    MembersShaped other type ds → ∀ p ∈ memberVerbatims depth ds c, other p.1 ∧ Stops p.2
  | [], _, _, _, p, hp => by simp [memberVerbatims] at hp
  | d :: ds, depth, c, ⟨hd, hds⟩, p, hp => by
    rcases List.mem_append.1 hp with hp | hp
    · exact Declaration.Shaped.verbatims d depth hd (stops_cons (by decide)) p hp
    · exact MembersShaped.verbatims ds depth hds p hp

end

mutual

theorem Declaration.Shaped.mono : (d : Declaration) →
    (∀ text ∈ d.types, type text → type' text) → d.Shaped other type → d.Shaped other type'
  | .binding _, htype, ⟨hattributes, hname, h, hinit⟩ =>
    ⟨hattributes, hname, fun text ht => htype text (by simpa [Declaration.types] using ht) (h text ht),
      hinit⟩
  | .body _ _ _ _ members, htype, ⟨hattributes, hname, h⟩ =>
    ⟨hattributes, hname, MembersShaped.mono members htype h⟩

theorem MembersShaped.mono : (ds : List Declaration) →
    (∀ text ∈ memberTypes ds, type text → type' text) → MembersShaped other type ds →
    MembersShaped other type' ds
  | [], _, _ => trivial
  | d :: ds, htype, ⟨hd, hds⟩ =>
    ⟨Declaration.Shaped.mono d (fun text ht => htype text (List.mem_append_left _ ht)) hd,
      MembersShaped.mono ds (fun text ht => htype text (List.mem_append_right _ ht)) hds⟩

end

end Shaped

section Mono

variable {verbatim verbatim' : String → List Char → List Char → Prop}

theorem InitializerSpelled.mono {o : Option Expression} {s c : List Char}
    (hv : Refines verbatim verbatim' (o.elim [] Expression.others))
    (h : InitializerSpelled verbatim o s c) : InitializerSpelled verbatim' o s c := by
  cases o with
  | none => exact h
  | some e =>
    obtain ⟨g, k, u, hg, hk, rfl, hu, hends⟩ := h
    exact ⟨g, k, u, hg, hk, rfl, Expression.Spelled.mono e hv hu fun _ _ => hends, hends⟩

mutual

theorem Declaration.Spelled.mono : (d : Declaration) → {s c : List Char} →
    Refines verbatim verbatim' d.others → d.Spelled verbatim s c → d.Spelled verbatim' s c
  | .binding _, _, _, hv, ⟨w, t, i, hs, hw, ht, hi, h⟩ => ⟨w, t, i, hs, hw, ht, hi.mono hv, h⟩
  | .body _ _ _ _ members, _, _, hv, ⟨w, g, t, hg, hs, hw, ht, h⟩ =>
    ⟨w, g, t, hg, hs, hw, MembersSpelled.mono members hv ht, h⟩

theorem MembersSpelled.mono : (ds : List Declaration) → {t c : List Char} →
    Refines verbatim verbatim' (memberOthers ds) → MembersSpelled verbatim ds t c →
    MembersSpelled verbatim' ds t c
  | [], _, _, _, ht => ht
  | d :: ds, _, _, hv, ⟨m, u, t, hm, hs, hu, hd, ht⟩ =>
    ⟨m, u, t, hm, hs, hu, Declaration.Spelled.mono d hv.left hd,
      MembersSpelled.mono ds hv.right ht⟩

end

end Mono

end SourceMacros

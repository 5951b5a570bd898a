import SourceMacros.Proofs.Declaration.RoundTrip

/-! Members that are put behind those of a body, and attributes that are dropped, leave a declaration
well-formed. -/

namespace SourceMacros

open Text

namespace Declaration

def isClass : Declaration → Bool
  | .body .reference _ _ _ _ => true
  | _ => false

/-- The body with more members behind its own. -/
def addMembers (more : List Declaration) : Declaration → Declaration
  | .body kind name modifiers attributes members =>
    .body kind name modifiers attributes (members ++ more)
  | .binding b => .binding b

@[simp] theorem isClass_addMembers (more : List Declaration) (d : Declaration) :
    (d.addMembers more).isClass = d.isClass := by
  cases d with
  | binding b => rfl
  | body kind => cases kind <;> rfl

@[simp] theorem name_addMembers (more : List Declaration) (d : Declaration) :
    (d.addMembers more).name = d.name := by
  cases d <;> rfl

theorem addMembers_nil (d : Declaration) : d.addMembers [] = d := by
  cases d <;> simp [addMembers]

theorem addMembers_addMembers (more others : List Declaration) (d : Declaration) :
    (d.addMembers more).addMembers others = d.addMembers (more ++ others) := by
  cases d <;> simp [addMembers]

theorem members_addMembers {d : Declaration} (h : d.isClass = true) (more : List Declaration) :
    (d.addMembers more).members = d.members ++ more := by
  cases d with
  | binding b => cases h
  | body => rfl

theorem keepAttributes_addMembers (keep : Attribute → Bool) (more : List Declaration)
    (d : Declaration) :
    (d.addMembers more).keepAttributes keep = (d.keepAttributes keep).addMembers more := by
  cases d <;> rfl

theorem keepAttributes_congr {keep keep' : Attribute → Bool} {d : Declaration}
    (h : ∀ a ∈ d.attributes, keep a = keep' a) : d.keepAttributes keep = d.keepAttributes keep' := by
  cases d with
  | binding b => simp [keepAttributes, List.filter_congr (show ∀ a ∈ b.attributes, _ from h)]
  | body kind name modifiers attributes members =>
    simp [keepAttributes, List.filter_congr (show ∀ a ∈ attributes, _ from h)]

theorem keepAttributes_eq_self {keep : Attribute → Bool} {d : Declaration}
    (h : ∀ a ∈ d.attributes, keep a = true) : d.keepAttributes keep = d := by
  cases d with
  | binding b => simp [keepAttributes, List.filter_eq_self.2 (show ∀ a ∈ b.attributes, _ from h)]
  | body kind name modifiers attributes members =>
    simp [keepAttributes, List.filter_eq_self.2 (show ∀ a ∈ attributes, _ from h)]

end Declaration

theorem membersShaped_iff {other type : String → Prop} {ds : List Declaration} :
    MembersShaped other type ds ↔ ∀ d ∈ ds, d.Shaped other type := by
  induction ds with
  | nil => simp [MembersShaped]
  | cons d ds ih => simp [MembersShaped, ih]

theorem membersDepth_le_iff {other type : String → Nat} {ds : List Declaration} {n : Nat} :
    membersDepth other type ds ≤ n ↔ ∀ d ∈ ds, d.depth other type ≤ n := by
  induction ds with
  | nil => simp [membersDepth]
  | cons d ds ih => simp [membersDepth, ih]

namespace Declaration

variable {d : Declaration}

theorem WellFormed.isIdentifier_name (h : d.WellFormed) : isIdentifier d.name = true := by
  cases d with
  | binding b => exact h.2.1
  | body => exact h.2.1

theorem WellFormed.addMembers (h : d.WellFormed) {more : List Declaration}
    (hmore : ∀ m ∈ more, m.WellFormed) : (d.addMembers more).WellFormed := by
  cases d with
  | binding b => exact h
  | body kind name modifiers attributes members =>
    obtain ⟨hattributes, hname, hmembers⟩ := h
    refine ⟨hattributes, hname, membersShaped_iff.2 fun m hm => ?_⟩
    rcases List.mem_append.1 hm with hm | hm
    · exact membersShaped_iff.1 hmembers m hm
    · exact hmore m hm

theorem WellFormed.keepAttributes (h : d.WellFormed) (keep : Attribute → Bool) :
    (d.keepAttributes keep).WellFormed := by
  cases d with
  | binding b =>
    obtain ⟨hattributes, hrest⟩ := h
    exact ⟨fun a ha => hattributes a (List.mem_of_mem_filter ha), hrest⟩
  | body kind name modifiers attributes members =>
    obtain ⟨hattributes, hrest⟩ := h
    exact ⟨fun a ha => hattributes a (List.mem_of_mem_filter ha), hrest⟩

theorem levels_keepAttributes (keep : Attribute → Bool) (d : Declaration) :
    (d.keepAttributes keep).levels = d.levels := by
  cases d <;> rfl

theorem levels_addMembers_le {more : List Declaration} {n : Nat} (hd : d.levels ≤ n)
    (hmore : ∀ m ∈ more, m.levels < n) : (d.addMembers more).levels ≤ n := by
  cases d with
  | binding b => exact hd
  | body kind name modifiers attributes members =>
    obtain ⟨n, rfl⟩ := Nat.exists_eq_succ_of_ne_zero (Nat.ne_zero_of_lt hd)
    refine Nat.succ_le_succ (membersDepth_le_iff.2 fun m hm => ?_)
    rcases List.mem_append.1 hm with hm | hm
    · exact membersDepth_le_iff.1 (Nat.le_of_succ_le_succ hd) m hm
    · exact Nat.le_of_lt_succ (hmore m hm)

end Declaration

end SourceMacros

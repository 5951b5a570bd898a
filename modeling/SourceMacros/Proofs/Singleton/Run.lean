import SourceMacros.Proofs.Declaration.Members
import SourceMacros.Registry

/-! Runs of macros on one declaration, each replacing it by the last of the declarations it gives. With the
standard macros a class only grows, by one accessor for each use of `Singleton` that is not kept from it by
a member of the accessor's name, and every other use leaves the declaration alone, `attachAll_standard`. -/

namespace SourceMacros

/-- A macro put on a declaration by an attribute, with what the host tells there. -/
structure Attachment where
  mark : Attribute
  context : Context
  deriving DecidableEq

namespace Attachment

def config (u : Attachment) : SingletonConfig := u.context.config.singleton

def isSingleton (u : Attachment) : Bool := u.mark.name == "Singleton"

/-- Where the guard is on and a member has the accessor's name, no accessor is added. -/
def skips (u : Attachment) (d : Declaration) : Bool :=
  u.config.skipExisting && d.members.any (·.name == u.config.accessorName)

def adds (u : Attachment) (d : Declaration) : Bool := d.isClass && u.isSingleton && !u.skips d

def accessor (u : Attachment) (className : String) : Declaration :=
  .accessor className u.config.accessorName u.config.executor

/-- What a use of `Singleton` puts behind the members of a class. -/
def added (u : Attachment) (d : Declaration) : List Declaration :=
  if u.skips d then [] else [u.accessor d.name]

end Attachment

namespace Registry

/-- The last of the declarations that the macro gives; without one, the declaration as it is. -/
def attach (r : Registry) (d : Declaration) (u : Attachment) : Declaration :=
  match (r.expandPeer u.mark d u.context).result with
  | .ok ds => ds.getLast?.getD d
  | .error _ => d

def attachAll (r : Registry) (d : Declaration) (uses : List Attachment) : Declaration :=
  uses.foldl r.attach d

/-- The uses of a run that add an accessor to the declaration as they find it. -/
def adding (r : Registry) : Declaration → List Attachment → List Attachment
  | _, [] => []
  | d, u :: uses => if u.adds d then u :: adding r (r.attach d u) uses else adding r (r.attach d u) uses

section Step

variable (d : Declaration) (u : Attachment)

theorem get?_standard {name : String} (h : name ≠ "Singleton") (hd : name ≠ "doubleValue")
    (hg : name ≠ "generateStruct") : standard.get? name = none := by
  refine get?_eq_none.2 fun hmem => ?_
  simp only [standard, standardEntries, List.map_cons, List.map_nil, List.mem_cons, List.not_mem_nil,
    or_false] at hmem
  rcases hmem with rfl | rfl | rfl
  · exact hd rfl
  · exact hg rfl
  · exact h rfl

theorem expandPeer_other (h : u.isSingleton = false) :
    ∃ error, standard.expandPeer u.mark d u.context = .fail error := by
  obtain ⟨⟨name⟩, context⟩ := u
  have hname : name ≠ "Singleton" := by simpa [Attachment.isSingleton] using h
  by_cases hd : name = "doubleValue"
  · subst hd
    exact ⟨_, rfl⟩
  · by_cases hg : name = "generateStruct"
    · subst hg
      exact ⟨_, rfl⟩
    · refine ⟨.unknownMacro name, ?_⟩
      rw [expandPeer, find, get?_standard hname hd hg]
      rfl

theorem expandPeer_singleton (h : u.isSingleton = true) :
    standard.expandPeer u.mark d u.context = Expander.singleton u.mark d u.context := by
  obtain ⟨⟨name⟩, context⟩ := u
  obtain rfl : name = "Singleton" := by simpa [Attachment.isSingleton] using h
  rfl

theorem expandPeer_of_not_class (h : d.isClass = false) :
    ∃ error, standard.expandPeer u.mark d u.context = .fail error := by
  cases hu : u.isSingleton with
  | false => exact expandPeer_other d u hu
  | true =>
    rw [expandPeer_singleton d u hu]
    cases d with
    | binding b => exact ⟨_, rfl⟩
    | body kind name modifiers attributes members =>
      cases kind with
      | struct => exact ⟨_, rfl⟩
      | reference => cases h

/-- On a class, a use of `Singleton` notes that it adds nothing, or adds its accessor. -/
theorem expandPeer_class (hd : d.isClass = true) (hu : u.isSingleton = true) :
    standard.expandPeer u.mark d u.context =
      if u.skips d then ⟨[.accessorExists d.name u.config.accessorName], .ok [d]⟩
      else ⟨[.expandedClass d.name], .ok [d.addMembers [u.accessor d.name]]⟩ := by
  rw [expandPeer_singleton d u hu]
  cases d with
  | binding b => cases hd
  | body kind name modifiers attributes members =>
    cases kind with
    | struct => cases hd
    | reference =>
      unfold Expander.singleton
      by_cases hskips : u.skips (.body .reference name modifiers attributes members) = true
      · rw [if_pos hskips]
        exact if_pos hskips
      · rw [if_neg hskips]
        exact if_neg hskips

theorem result_expandPeer_class (hd : d.isClass = true) (hu : u.isSingleton = true) :
    (standard.expandPeer u.mark d u.context).result = .ok [d.addMembers (u.added d)] := by
  rw [expandPeer_class d u hd hu, Attachment.added]
  cases u.skips d with
  | true => simp [Declaration.addMembers_nil]
  | false => rfl

theorem attach_standard :
    standard.attach d u = if u.adds d then d.addMembers [u.accessor d.name] else d := by
  cases hd : d.isClass with
  | false =>
    obtain ⟨error, hfail⟩ := expandPeer_of_not_class d u hd
    simp [attach, hfail, Attachment.adds, hd]
  | true =>
    cases hu : u.isSingleton with
    | false =>
      obtain ⟨error, hfail⟩ := expandPeer_other d u hu
      simp [attach, hfail, Attachment.adds, hu]
    | true =>
      rw [attach, expandPeer_class d u hd hu]
      cases hskips : u.skips d <;> simp [Attachment.adds, hd, hu, hskips]

end Step

section Run

/-- A run adds the accessors of the uses that add one, in their order. -/
theorem attachAll_eq_addMembers (d : Declaration) (uses : List Attachment) :
    standard.attachAll d uses =
      d.addMembers ((standard.adding d uses).map fun u => u.accessor d.name) := by
  induction uses generalizing d with
  | nil => exact (Declaration.addMembers_nil d).symm
  | cons u uses ih =>
    have hstep : standard.attachAll d (u :: uses) = standard.attachAll (standard.attach d u) uses := rfl
    rw [hstep, ih, adding, attach_standard]
    cases hadds : u.adds d with
    | false => rfl
    | true => simp [Declaration.addMembers_addMembers]

variable {d : Declaration}

theorem isClass_of_adds {u : Attachment} (h : u.adds d = true) : d.isClass = true := by
  simp only [Attachment.adds, Bool.and_eq_true] at h
  exact h.1.1

theorem isSingleton_of_adds {u : Attachment} (h : u.adds d = true) : u.isSingleton = true := by
  simp only [Attachment.adds, Bool.and_eq_true] at h
  exact h.1.2

theorem adding_of_not_class (h : d.isClass = false) (uses : List Attachment) :
    standard.adding d uses = [] := by
  induction uses with
  | nil => rfl
  | cons u uses ih =>
    have hadds : u.adds d = false := by simp [Attachment.adds, h]
    simpa [adding, attach_standard, hadds] using ih

theorem isClass_attachAll (d : Declaration) (uses : List Attachment) :
    (standard.attachAll d uses).isClass = d.isClass := by
  rw [attachAll_eq_addMembers, Declaration.isClass_addMembers]

theorem name_ne_of_adds {u : Attachment} (h : u.adds d = true) (hguard : u.config.skipExisting = true) :
    ∀ m ∈ d.members, m.name ≠ u.config.accessorName := by
  simp only [Attachment.adds, Attachment.skips, hguard, Bool.true_and, Bool.and_eq_true,
    Bool.not_eq_true', List.any_eq_false, beq_iff_eq] at h
  exact h.2

/-- With every guard on, the names that are added are new, and none comes twice. -/
theorem adding_guarded {uses : List Attachment}
    (hguard : ∀ u ∈ uses, u.isSingleton = true → u.config.skipExisting = true) :
    ((standard.adding d uses).map fun u => u.config.accessorName).Nodup ∧
      ∀ u ∈ standard.adding d uses, ∀ m ∈ d.members, m.name ≠ u.config.accessorName := by
  induction uses generalizing d with
  | nil => exact ⟨List.nodup_nil, fun u hu => absurd hu List.not_mem_nil⟩
  | cons u uses ih =>
    obtain ⟨hu, hrest⟩ := List.forall_mem_cons.1 hguard
    rw [adding, attach_standard]
    cases hadds : u.adds d with
    | false =>
      rw [if_neg Bool.false_ne_true, if_neg Bool.false_ne_true]
      exact ih hrest
    | true =>
      rw [if_pos rfl, if_pos rfl]
      obtain ⟨hnodup, hnew⟩ := ih (d := d.addMembers [u.accessor d.name]) hrest
      rw [Declaration.members_addMembers (isClass_of_adds hadds)] at hnew
      refine ⟨List.nodup_cons.2 ⟨fun hmem => ?_, hnodup⟩, List.forall_mem_cons.2 ⟨?_, ?_⟩⟩
      · -- The accessor that was added has the name already.
        obtain ⟨v, hv, hname⟩ := List.mem_map.1 hmem
        exact hnew v hv (u.accessor d.name) (by simp) hname.symm
      · exact name_ne_of_adds hadds (hu (isSingleton_of_adds hadds))
      · exact fun v hv m hm => hnew v hv m (List.mem_append_left _ hm)

theorem exists_accessor (hd : d.isClass = true) {u : Attachment} {uses : List Attachment}
    (hmem : u ∈ uses) (hu : u.isSingleton = true) :
    ∃ m ∈ (standard.attachAll d uses).members, m.name = u.config.accessorName := by
  induction uses generalizing d with
  | nil => cases hmem
  | cons v uses ih =>
    have hclass : (standard.attach d v).isClass = true := by
      rw [← hd]
      exact isClass_attachAll d [v]
    rcases List.mem_cons.1 hmem with rfl | hmem
    · obtain ⟨m, hm, hname⟩ : ∃ m ∈ (standard.attach d u).members, m.name = u.config.accessorName := by
        rw [attach_standard]
        cases hadds : u.adds d with
        | true =>
          rw [if_pos rfl, Declaration.members_addMembers hd]
          exact ⟨u.accessor d.name, by simp, rfl⟩
        | false =>
          have hskips : u.skips d = true := by simpa [Attachment.adds, hd, hu] using hadds
          simp only [Attachment.skips, Bool.and_eq_true, List.any_eq_true, beq_iff_eq] at hskips
          exact hskips.2
      refine ⟨m, ?_, hname⟩
      change m ∈ (standard.attachAll (standard.attach d u) uses).members
      rw [attachAll_eq_addMembers, Declaration.members_addMembers hclass]
      exact List.mem_append_left _ hm
    · exact ih hclass hmem

/-- A use with the guard on changes nothing where its accessor has been asked for before. -/
theorem attach_again {u v : Attachment} {uses : List Attachment} (hmem : v ∈ uses)
    (hv : v.isSingleton = true) (hname : v.config.accessorName = u.config.accessorName)
    (hguard : u.isSingleton = true → u.config.skipExisting = true) :
    standard.attach (standard.attachAll d uses) u = standard.attachAll d uses := by
  rw [attach_standard]
  refine if_neg fun hadds => ?_
  have hd : d.isClass = true := by rw [← isClass_attachAll d uses, isClass_of_adds hadds]
  obtain ⟨m, hm, hmember⟩ := exists_accessor hd hmem hv
  exact name_ne_of_adds hadds (hguard (isSingleton_of_adds hadds)) m hm (hmember.trans hname)

theorem attachAll_again {uses again : List Attachment} (hsub : again ⊆ uses)
    (hguard : ∀ u ∈ uses, u.isSingleton = true → u.config.skipExisting = true) :
    standard.attachAll (standard.attachAll d uses) again = standard.attachAll d uses := by
  induction again with
  | nil => rfl
  | cons u again ih =>
    obtain ⟨hmem, hsub⟩ := List.cons_subset.1 hsub
    have hstep : standard.attach (standard.attachAll d uses) u = standard.attachAll d uses := by
      cases hu : u.isSingleton with
      | true => exact attach_again hmem hu rfl (hguard u hmem)
      | false =>
        rw [attach_standard]
        simp [Attachment.adds, hu]
    change standard.attachAll (standard.attach (standard.attachAll d uses) u) again = _
    rw [hstep, ih hsub]

end Run

/-- Nothing but `Singleton` changes anything, and nothing but a class. A class gets a constant behind its
members for each use that its guard does not stop; with every guard on, names stay distinct. -/
theorem attachAll_standard (uses : List Attachment) :
    (∀ (d : Declaration) (u : Attachment), u.isSingleton = false ∨ d.isClass = false →
      (∃ error, (standard.expandPeer u.mark d u.context).result = .error error) ∧
        standard.attach d u = d) ∧
    (∀ d : Declaration, d.isClass = false → standard.attachAll d uses = d) ∧
    (∀ (name : String) (modifiers : List Modifier) (attributes : List Attribute)
      (members : List Declaration) (u : Attachment), u.isSingleton = true →
      standard.expandPeer u.mark (.body .reference name modifiers attributes members) u.context =
        if u.skips (.body .reference name modifiers attributes members) then
          ⟨[.accessorExists name u.config.accessorName], .ok [.body .reference name modifiers attributes members]⟩
        else
          ⟨[.expandedClass name], .ok [.body .reference name modifiers attributes (members ++
            [.binding ⟨u.config.accessorName, none, some (.call (.identifier name) []), true,
              [.public, .static], u.config.executor.toList.map Attribute.mk⟩])]⟩) ∧
    (∀ (name : String) (modifiers : List Modifier) (attributes : List Attribute)
      (members : List Declaration),
      standard.attachAll (.body .reference name modifiers attributes members) uses =
        .body .reference name modifiers attributes (members ++
          (standard.adding (.body .reference name modifiers attributes members) uses).map fun u =>
            .binding ⟨u.config.accessorName, none, some (.call (.identifier name) []), true,
              [.public, .static], u.config.executor.toList.map Attribute.mk⟩)) ∧
    ((∀ u ∈ uses, u.isSingleton = true → u.config.skipExisting = true) → ∀ d : Declaration,
      ((standard.adding d uses).map fun u => u.config.accessorName).Nodup ∧
      (∀ u ∈ standard.adding d uses, ∀ m ∈ d.members, m.name ≠ u.config.accessorName) ∧
      ∀ again ⊆ uses, standard.attachAll (standard.attachAll d uses) again =
        standard.attachAll d uses) := by
  refine ⟨fun d u h => ?_, fun d hd => ?_,
    fun name modifiers attributes members u hu => expandPeer_class _ u rfl hu,
    fun name modifiers attributes members => ?_, fun hguard d => ?_⟩
  · obtain ⟨error, hfail⟩ : ∃ error, standard.expandPeer u.mark d u.context = .fail error :=
      h.elim (expandPeer_other d u) (expandPeer_of_not_class d u)
    exact ⟨⟨error, by rw [hfail]; rfl⟩, by rw [attach, hfail]; rfl⟩
  · rw [attachAll_eq_addMembers, adding_of_not_class hd]
    exact Declaration.addMembers_nil d
  · exact attachAll_eq_addMembers _ uses
  · obtain ⟨hnodup, hnew⟩ := adding_guarded (d := d) hguard
    exact ⟨hnodup, hnew, fun again hsub => attachAll_again hsub hguard⟩

def guardedUse (accessorName : String) : Attachment :=
  ⟨⟨"Singleton"⟩, { config := { singleton := ⟨accessorName, none, true⟩ } }⟩

/-- A class on which `a` is there, `b` is added once, a macro of another name fails, and a use without a guard
adds its constant; and a struct, on which everything fails. -/
theorem attachAll_standard_guarded :
    (∃ error, (standard.expandPeer ⟨"a"⟩ (.body .reference "A" [] [] []) {}).result = .error error) ∧
    standard.attachAll (.body .struct "A" [] [] []) [guardedUse "a"] = .body .struct "A" [] [] [] ∧
    (standard.expandPeer ⟨"Singleton"⟩ (.body .reference "A" [] [] []) {}).result =
      .ok [.body .reference "A" [] [] [.binding ⟨"shared", none, some (.call (.identifier "A") []), true,
        [.public, .static], [⟨"MainActor"⟩]⟩]] ∧
    standard.attachAll (.body .reference "A" [.final] [⟨"c"⟩] [.binding ⟨"a", some "Int", none, false, [], []⟩])
        [guardedUse "a", guardedUse "b", ⟨⟨"a"⟩, {}⟩, guardedUse "b", ⟨⟨"Singleton"⟩, {}⟩] =
      .body .reference "A" [.final] [⟨"c"⟩]
        [.binding ⟨"a", some "Int", none, false, [], []⟩,
          .binding ⟨"b", none, some (.call (.identifier "A") []), true, [.public, .static], []⟩,
          .binding ⟨"shared", none, some (.call (.identifier "A") []), true, [.public, .static],
            [⟨"MainActor"⟩]⟩] ∧
    standard.attachAll (.body .reference "A" [] []
        [.binding ⟨"b", none, some (.call (.identifier "A") []), true, [.public, .static], []⟩]) [guardedUse "b"] =
      .body .reference "A" [] []
        [.binding ⟨"b", none, some (.call (.identifier "A") []), true, [.public, .static], []⟩] := by
  obtain ⟨hfails, -, hstep, hclass, -⟩ := attachAll_standard
    [guardedUse "a", guardedUse "b", ⟨⟨"a"⟩, {}⟩, guardedUse "b", ⟨⟨"Singleton"⟩, {}⟩]
  obtain ⟨-, hstruct, -, -, -⟩ := attachAll_standard [guardedUse "a"]
  obtain ⟨-, -, -, hone, hagain⟩ := attachAll_standard [guardedUse "b"]
  have hadding : standard.adding
      (.body .reference "A" [.final] [⟨"c"⟩] [.binding ⟨"a", some "Int", none, false, [], []⟩])
      [guardedUse "a", guardedUse "b", ⟨⟨"a"⟩, {}⟩, guardedUse "b", ⟨⟨"Singleton"⟩, {}⟩] =
        [guardedUse "b", ⟨⟨"Singleton"⟩, {}⟩] := by decide
  have hrun := hclass "A" [.final] [⟨"c"⟩] [.binding ⟨"a", some "Int", none, false, [], []⟩]
  rw [hadding] at hrun
  have hrepeat := ((hagain (by decide)) (.body .reference "A" [] [] [])).2.2 [guardedUse "b"] (by simp)
  refine ⟨(hfails _ ⟨⟨"a"⟩, {}⟩ (.inl (by decide))).1, hstruct _ rfl, ?_, hrun, ?_⟩
  · exact congrArg Expansion.result (hstep "A" [] [] [] ⟨⟨"Singleton"⟩, {}⟩ (by decide))
  · rw [hone "A" [] [] []] at hrepeat
    exact hrepeat

end Registry
end SourceMacros

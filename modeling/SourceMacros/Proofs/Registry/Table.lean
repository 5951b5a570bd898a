import Mathlib.Data.List.Nodup
import SourceMacros.Proofs.Registry.Source
import SourceMacros.Proofs.Results

/-! Tables as functions of their lists: which lists have a table, what is found in it, and that nothing a
table does shows the order of its list, `ofList_table`. -/

namespace SourceMacros

open Text

namespace Registry

variable {r r' : Registry} {e : MacroEntry} {entries entries' : List MacroEntry} {name : String}

theorem eq_of_entries (h : r.entries = r'.entries) : r = r' := by
  obtain ⟨entries, nodup⟩ := r
  obtain ⟨entries', nodup'⟩ := r'
  obtain rfl : entries = entries' := h
  rfl

/-- An entry comes to the front, if its name is new. -/
theorem add_eq_ok : r.add e = .ok r' ↔ r'.entries = e :: r.entries := by
  unfold add
  split
  case h_1 hget =>
    rw [Except.ok.injEq]
    exact ⟨fun h => h ▸ rfl, fun h => eq_of_entries h.symm⟩
  case h_2 hget =>
    refine iff_of_false (fun h => by cases h) fun h => ?_
    have hnodup := r'.nodup
    rw [h, List.map_cons, List.nodup_cons, ← get?_eq_none, hget] at hnodup
    cases hnodup.1

theorem add_eq_error {error : ExpansionError} : r.add e = .error error ↔
    e.name ∈ r.entries.map MacroEntry.name ∧ error = .duplicateMacro e.name := by
  unfold add
  split
  case h_1 hget =>
    exact iff_of_false (fun h => by cases h) fun h => get?_eq_none.1 hget h.1
  case h_2 hget =>
    have hmem : e.name ∈ r.entries.map MacroEntry.name := by
      by_contra hnew
      rw [get?_eq_none.2 hnew] at hget
      cases hget
    rw [Except.error.injEq, and_iff_right hmem, eq_comm]

theorem foldlM_add_eq_ok : entries.foldlM add r = .ok r' ↔ r'.entries = entries.reverse ++ r.entries := by
  induction entries generalizing r with
  | nil =>
    rw [List.foldlM_nil, List.reverse_nil, List.nil_append]
    exact ⟨fun h => Except.ok.inj h ▸ rfl, fun h => congrArg Except.ok (eq_of_entries h.symm)⟩
  | cons e entries ih =>
    rw [List.foldlM_cons, except_bind_eq_ok, List.reverse_cons, List.append_assoc, List.singleton_append]
    constructor
    · rintro ⟨r₁, hadd, h⟩
      rw [← add_eq_ok.1 hadd]
      exact ih.1 h
    · intro h
      have hnodup := r'.nodup
      rw [h, List.map_append] at hnodup
      exact ⟨⟨e :: r.entries, hnodup.of_append_right⟩, add_eq_ok.2 rfl, ih.2 h⟩

theorem ofList_eq_ok : ofList entries = .ok r ↔ r.entries = entries.reverse := by
  rw [ofList, foldlM_add_eq_ok, empty, List.append_nil]

theorem exists_ofList : (∃ r, ofList entries = .ok r) ↔ (entries.map MacroEntry.name).Nodup := by
  have hreverse : (entries.reverse.map MacroEntry.name).Nodup ↔ (entries.map MacroEntry.name).Nodup := by
    rw [List.map_reverse, List.nodup_reverse]
  constructor
  · rintro ⟨r, h⟩
    rw [← hreverse, ← ofList_eq_ok.1 h]
    exact r.nodup
  · exact fun h => ⟨⟨entries.reverse, hreverse.2 h⟩, ofList_eq_ok.2 rfl⟩

theorem ofList_eq_error {error : ExpansionError} : ofList entries = .error error ↔
    ∃ before e after, entries = before ++ e :: after ∧ (before.map MacroEntry.name).Nodup ∧
      e.name ∈ before.map MacroEntry.name ∧ error = .duplicateMacro e.name := by
  have hnames : ∀ {before : List MacroEntry} {r : Registry}, ofList before = .ok r →
      ∀ name, name ∈ r.entries.map MacroEntry.name ↔ name ∈ before.map MacroEntry.name := by
    intro before r h name
    rw [ofList_eq_ok.1 h, List.map_reverse, List.mem_reverse]
  rw [ofList, foldlM_eq_error]
  constructor
  · rintro ⟨before, e, after, r, rfl, hbefore, hadd⟩
    obtain ⟨hmem, rfl⟩ := add_eq_error.1 hadd
    exact ⟨before, e, after, rfl, exists_ofList.1 ⟨r, hbefore⟩, (hnames hbefore _).1 hmem, rfl⟩
  · rintro ⟨before, e, after, rfl, hnodup, hmem, rfl⟩
    obtain ⟨r, hbefore⟩ := exists_ofList.2 hnodup
    exact ⟨before, e, after, r, rfl, hbefore, add_eq_error.2 ⟨(hnames hbefore _).2 hmem, rfl⟩⟩

theorem get?_eq_some : r.get? name = some e ↔ e ∈ r.entries ∧ e.name = name := by
  constructor
  · exact fun h => ⟨List.mem_of_find?_eq_some h, by simpa using List.find?_some h⟩
  · rintro ⟨hmem, rfl⟩
    cases hget : r.get? e.name with
    | none => exact absurd (List.mem_map_of_mem hmem) (get?_eq_none.1 hget)
    | some e' =>
      have hname : e'.name = e.name := by simpa using List.find?_some hget
      rw [List.inj_on_of_nodup_map r.nodup (List.mem_of_find?_eq_some hget) hmem hname]

end Registry

theorem Text.lt_of_precedes {a b : String} (h : precedes a b = true) (hne : a ≠ b) : bytes a < bytes b := by
  by_contra hlt
  exact hne (eq_of_precedes h (decide_eq_true (List.not_lt.1 hlt)))

namespace Registry

variable {r r' : Registry}

theorem names_perm (r : Registry) : r.names.Perm (r.entries.map MacroEntry.name) :=
  List.mergeSort_perm _ _

theorem pairwise_names (r : Registry) : r.names.Pairwise fun a b => precedes a b = true :=
  List.pairwise_mergeSort precedes_trans precedes_total _

theorem names_increase (r : Registry) : r.names.Pairwise fun a b => bytes a < bytes b := by
  have hnodup : r.names.Nodup := r.names_perm.nodup_iff.2 r.nodup
  exact r.pairwise_names.imp₂ (fun _ _ => lt_of_precedes) hnodup

section Orders

variable (h : r.entries.Perm r'.entries)
include h

theorem names_eq_of_perm : r.names = r'.names := by
  have hperm : r.names.Perm r'.names :=
    r.names_perm.trans ((h.map MacroEntry.name).trans r'.names_perm.symm)
  exact hperm.eq_of_pairwise (fun _ _ _ _ => eq_of_precedes) r.pairwise_names r'.pairwise_names

theorem get?_eq_of_perm (name : String) : r.get? name = r'.get? name := by
  ext e
  rw [get?_eq_some, get?_eq_some, h.mem_iff]

end Orders

section Lookups

variable (h : ∀ name, r.get? name = r'.get? name) (context : Context)
include h

theorem find_eq_of_get? (name : String) : r.find name = r'.find name := by
  rw [find, find, h]

theorem contains_eq_of_get? (name : String) : r.contains name = r'.contains name := by
  rw [contains, contains, h]

theorem expandExpression_eq_of_get? (v : Invocation) :
    r.expandExpression v context = r'.expandExpression v context := by
  rw [expandExpression, expandExpression, find_eq_of_get? h]

theorem expandDeclaration_eq_of_get? (v : Invocation) :
    r.expandDeclaration v context = r'.expandDeclaration v context := by
  rw [expandDeclaration, expandDeclaration, find_eq_of_get? h]

theorem expandPeer_eq_of_get? (mark : Attribute) (d : Declaration) :
    r.expandPeer mark d context = r'.expandPeer mark d context := by
  rw [expandPeer, expandPeer, find_eq_of_get? h]

theorem withoutMacros_eq_of_get? : r.withoutMacros = r'.withoutMacros := by
  funext d
  simp only [withoutMacros, contains_eq_of_get? h]

theorem expandPeers_eq_of_get? (d : Declaration) (marks : List Attribute) :
    r.expandPeers d context marks = r'.expandPeers d context marks := by
  induction marks with
  | nil => rfl
  | cons mark marks ih =>
    rw [expandPeers, expandPeers, expandPeer_eq_of_get? h, ih, withoutMacros_eq_of_get? h]

/-- Source is expanded alike by tables in which the same is found. -/
theorem expandSource_eq_of_get? (source : String) :
    r.expandSource source context = r'.expandSource source context := by
  have hcall : ∀ v, r.expandInvocation v context = r'.expandInvocation v context := by
    intro v
    rw [expandInvocation, expandInvocation, find_eq_of_get? h]
  have hattached : ∀ d, r.expandAttached d context = r'.expandAttached d context := by
    intro d
    simp only [expandAttached, contains_eq_of_get? h, expandPeers_eq_of_get? h, withoutMacros_eq_of_get? h]
  simp only [expandSource, expandTrimmed, hcall, hattached]

end Lookups

/-- What is found in a table is what its list holds, and its names are in order. -/
structure Tabulates (r : Registry) (entries : List MacroEntry) : Prop where
  get? : ∀ name e, r.get? name = some e ↔ e ∈ entries ∧ e.name = name
  contains : ∀ name, r.contains name = true ↔ ∃ e, r.get? name = some e
  size : r.size = entries.length
  increase : r.names.Pairwise fun a b => bytes a < bytes b
  mem_names : ∀ name, name ∈ r.names ↔ name ∈ entries.map MacroEntry.name

/-- The tables have the same names, and whatever is asked of them or expanded by them comes out the same. -/
structure Alike (r r' : Registry) : Prop where
  names : r.names = r'.names
  get? : ∀ name, r.get? name = r'.get? name
  expandExpression : ∀ v context, r.expandExpression v context = r'.expandExpression v context
  expandDeclaration : ∀ v context, r.expandDeclaration v context = r'.expandDeclaration v context
  expandPeer : ∀ mark d context, r.expandPeer mark d context = r'.expandPeer mark d context
  expandSource : ∀ source context, r.expandSource source context = r'.expandSource source context

theorem tabulates_of_ofList {r : Registry} {entries : List MacroEntry} (h : ofList entries = .ok r) :
    r.Tabulates entries where
  get? name e := by rw [get?_eq_some, ofList_eq_ok.1 h, List.mem_reverse]
  contains name := by rw [Registry.contains, Option.isSome_iff_exists]
  size := by rw [Registry.size, ofList_eq_ok.1 h, List.length_reverse]
  increase := r.names_increase
  mem_names name := by
    rw [r.names_perm.mem_iff, ofList_eq_ok.1 h, List.map_reverse, List.mem_reverse]

theorem alike_of_perm {r r' : Registry} (h : r.entries.Perm r'.entries) : r.Alike r' where
  names := names_eq_of_perm h
  get? := get?_eq_of_perm h
  expandExpression v context := expandExpression_eq_of_get? (get?_eq_of_perm h) context v
  expandDeclaration v context := expandDeclaration_eq_of_get? (get?_eq_of_perm h) context v
  expandPeer mark d context := expandPeer_eq_of_get? (get?_eq_of_perm h) context mark d
  expandSource source context := expandSource_eq_of_get? (get?_eq_of_perm h) context source

/-- A list has a table just where its names are distinct; else the first repeated name is reported. The table
finds what the list holds, whatever its order. -/
theorem ofList_table (entries : List MacroEntry) :
    ((∃ r, ofList entries = .ok r) ↔ (entries.map MacroEntry.name).Nodup) ∧
    (∀ error, ofList entries = .error error ↔ ∃ before e after, entries = before ++ e :: after ∧
      (before.map MacroEntry.name).Nodup ∧ e.name ∈ before.map MacroEntry.name ∧
      error = .duplicateMacro e.name) ∧
    ∀ r, ofList entries = .ok r → r.Tabulates entries ∧
      ∀ entries' : List MacroEntry, entries'.Perm entries → ∃ r', ofList entries' = .ok r' ∧ r'.Alike r := by
  refine ⟨exists_ofList, fun _ => ofList_eq_error, fun r h => ⟨tabulates_of_ofList h, fun entries' hperm => ?_⟩⟩
  have hnodup : (entries'.map MacroEntry.name).Nodup :=
    (hperm.map MacroEntry.name).nodup_iff.2 (exists_ofList.1 ⟨r, h⟩)
  obtain ⟨r', h'⟩ := exists_ofList.2 hnodup
  refine ⟨r', h', alike_of_perm ?_⟩
  rw [ofList_eq_ok.1 h, ofList_eq_ok.1 h']
  exact ((entries'.reverse_perm.trans hperm).trans entries.reverse_perm.symm)

/-- The standard macros in two orders; of two names that both come twice, the one whose second entry is first
is reported. -/
theorem ofList_table_standard :
    (∃ r, ofList standardEntries = .ok r ∧ r.Tabulates standardEntries ∧
      ∃ r', ofList standardEntries.reverse = .ok r' ∧ r'.Alike r) ∧
    ofList (standardEntries ++ standardEntries.reverse) = .error (.duplicateMacro "Singleton") := by
  obtain ⟨r, h⟩ := (ofList_table standardEntries).1.2 (by decide)
  obtain ⟨htable, horders⟩ := (ofList_table standardEntries).2.2 r h
  refine ⟨⟨r, h, htable, horders _ standardEntries.reverse_perm⟩, ?_⟩
  exact ((ofList_table _).2.1 _).2 ⟨standardEntries, ⟨"Singleton", .peer Expander.singleton⟩, _, rfl,
    by decide, by decide, rfl⟩

end Registry
end SourceMacros

import SourceMacros.Proofs.Reader.Trimmed
import SourceMacros.Registry

/-! Expansion of the text that is written for a call or for a declaration comes to what expansion of the
tree comes to, `expandSource_render`. -/

namespace SourceMacros

open Text

namespace Declaration

theorem head_written_ne (d : Declaration) : d.written.head? ≠ some '#' := by
  obtain ⟨k, t, hwritten, hk⟩ := d.head_written 0
  rw [Declaration.written, hwritten]
  intro hsign
  rw [Option.some.inj hsign] at hk
  exact absurd hk (by decide)

theorem written_eq_lead (d : Declaration) : d.written =
    leadWritten d.attributes [] ++ (d.keepAttributes fun _ => false).written := by
  cases d <;> simp [Declaration.written, Declaration.writtenAt, Declaration.attributes,
    Declaration.keepAttributes, Binding.written, leadWritten]

theorem keepAttributes_none (d : Declaration) (keep : Attribute → Bool) :
    (d.keepAttributes keep).keepAttributes (fun _ => false) = d.keepAttributes fun _ => false := by
  cases d <;> simp [Declaration.keepAttributes]

end Declaration

namespace Registry

variable (r : Registry) (context : Context)

theorem expandSource_of_trimmed {source : String} (h : Trimmed source.toList) :
    r.expandSource source context = r.expandTrimmed source context := by
  rw [expandSource, h.trim_self, String.ofList_toList]

section Calls

variable (v : Invocation)

theorem find_eq_done {name : String} {e : MacroEntry} (h : r.get? name = some e) :
    r.find name = .done e.expander := by
  rw [find, h]

theorem find_eq_fail {name : String} (h : r.get? name = none) :
    r.find name = .fail (.unknownMacro name) := by
  rw [find, h]

/-- What a call becomes is settled by the role of its macro. -/
theorem result_expandInvocation : (r.expandInvocation v context).result =
    match (r.get? v.name).map MacroEntry.role with
    | none => .error (.unknownMacro v.name)
    | some .expression => (r.expandExpression v context).result.map Expression.render
    | some .declaration => (r.expandDeclaration v context).result.map Declaration.renderAll
    | some .peer => .error (.roleMismatch v.name .declaration .peer) := by
  cases hget : r.get? v.name with
  | none =>
    rw [expandInvocation, find_eq_fail r hget, Expansion.fail_bind]
    rfl
  | some e =>
    obtain ⟨name, expander⟩ := e
    have hfind := find_eq_done r hget
    cases expander with
    | expression expand =>
      rw [expandInvocation, expandExpression, hfind, Expansion.done_bind, Expansion.done_bind]
      exact Expansion.result_bind_pure (expand v context) Expression.render
    | declaration expand =>
      rw [expandInvocation, expandDeclaration, hfind, Expansion.done_bind, Expansion.done_bind]
      exact Expansion.result_bind_pure (expand v context) Declaration.renderAll
    | peer expand =>
      rw [expandInvocation, hfind, Expansion.done_bind]
      rfl

theorem result_expandSource_call {v : Invocation} (h : Invocation.parse v.render = .ok v) :
    (r.expandSource v.render context).result = (r.expandInvocation v context).result := by
  have hsign : v.render.toList.head? = some '#' := by simp [Invocation.written]
  have htrimmed : Trimmed v.render.toList := by simpa using v.trimmed_written
  rw [expandSource_of_trimmed r context htrimmed, expandTrimmed, if_pos hsign, h]
  rfl

end Calls

section Declarations

variable (d : Declaration)

/-- Attributes are expanded in their order, up to the first that fails. -/
theorem result_expandPeers (marks : List Attribute) : (r.expandPeers d context marks).result =
    (marks.mapM fun a => (r.expandPeer a d context).result).map fun peers =>
      peers.flatten.map r.withoutMacros := by
  induction marks with
  | nil => rfl
  | cons mark marks ih =>
    simp only [expandPeers, Expansion.result_bind, Expansion.result_note, ih, List.mapM_cons]
    cases (r.expandPeer mark d context).result with
    | error error => rfl
    | ok peers =>
      cases marks.mapM fun a => (r.expandPeer a d context).result with
      | error error => rfl
      | ok others => exact congrArg Except.ok List.map_append.symm

theorem result_expandAttached : (r.expandAttached d context).result =
    ((d.attributes.filter fun a => r.contains a.name).mapM fun a =>
      (r.expandPeer a d context).result).map fun peers =>
        Declaration.renderAll ((d :: peers.flatten).map r.withoutMacros) := by
  rw [expandAttached, Expansion.result_bind_pure, result_expandPeers]
  cases (d.attributes.filter fun a => r.contains a.name).mapM fun a =>
    (r.expandPeer a d context).result <;> rfl

theorem result_expandSource_declaration {d : Declaration} (h : Declaration.parse d.render = .ok d) :
    (r.expandSource d.render context).result = (r.expandAttached d context).result := by
  have hsign : d.render.toList.head? ≠ some '#' := by simpa using d.head_written_ne
  have htrimmed : Trimmed d.render.toList := by simpa using Declaration.trimmed_written h
  rw [expandSource_of_trimmed r context htrimmed, expandTrimmed, if_neg hsign, h]
  rfl

/-- Without the attributes that are macros, the text behind the attributes is the same. -/
theorem exists_written_withoutMacros : ∃ rest, d.written = leadWritten d.attributes [] ++ rest ∧
    (r.withoutMacros d).written =
      leadWritten (d.attributes.filter fun a => !r.contains a.name) [] ++ rest := by
  refine ⟨(d.keepAttributes fun _ => false).written, d.written_eq_lead, ?_⟩
  rw [Declaration.written_eq_lead, withoutMacros, Declaration.attributes_keepAttributes,
    Declaration.keepAttributes_none]

theorem get?_of_mem_withoutMacros {a : Attribute} (h : a ∈ (r.withoutMacros d).attributes) :
    r.get? a.name = none := by
  rw [withoutMacros, Declaration.attributes_keepAttributes] at h
  simpa [contains] using (List.mem_filter.1 h).2

end Declarations

/-- Written source expands as what is written. A call becomes what its macro gives; beside a declaration,
without its macros but otherwise the same, stands what they give in order, up to the first that fails. -/
theorem expandSource_render (r : Registry) (context : Context) :
    (∀ v, Invocation.parse v.render = .ok v → (r.expandSource v.render context).result =
      match (r.get? v.name).map MacroEntry.role with
      | none => .error (.unknownMacro v.name)
      | some .expression => (r.expandExpression v context).result.map Expression.render
      | some .declaration => (r.expandDeclaration v context).result.map Declaration.renderAll
      | some .peer => .error (.roleMismatch v.name .declaration .peer)) ∧
    (∀ d, Declaration.parse d.render = .ok d → (r.expandSource d.render context).result =
      ((d.attributes.filter fun a => r.contains a.name).mapM fun a =>
        (r.expandPeer a d context).result).map fun peers =>
          Declaration.renderAll ((d :: peers.flatten).map r.withoutMacros)) ∧
    ∀ d, (∀ a ∈ (r.withoutMacros d).attributes, r.get? a.name = none) ∧
      (r.withoutMacros d).attributes = (d.attributes.filter fun a => !r.contains a.name) ∧
      ∃ rest, d.written = leadWritten d.attributes [] ++ rest ∧
        (r.withoutMacros d).written = leadWritten (r.withoutMacros d).attributes [] ++ rest := by
  have hattributes : ∀ d, (r.withoutMacros d).attributes =
      d.attributes.filter fun a => !r.contains a.name := fun d =>
    Declaration.attributes_keepAttributes _ d
  refine ⟨fun v hv => ?_, fun d hd => ?_, fun d => ⟨fun a ha => ?_, hattributes d, ?_⟩⟩
  · rw [result_expandSource_call r context hv, result_expandInvocation]
  · rw [result_expandSource_declaration r context hd, result_expandAttached]
  · exact get?_of_mem_withoutMacros r d ha
  · rw [hattributes d]
    exact exists_written_withoutMacros r d

/-- The standard macros on a call, on a class with another attribute, and on a struct, which is refused. -/
theorem expandSource_render_standard :
    (∃ v, v.render = "#doubleValue(10)" ∧ Invocation.parse v.render = .ok v ∧
      (standard.expandSource v.render {}).result = .ok "Double(10)") ∧
    (∃ d, d.render = "@a @Singleton class A \x7b\n\x7d" ∧ Declaration.parse d.render = .ok d ∧
      (standard.expandSource d.render {}).result = .ok ("@a class A \x7b\n\x7d\n\n@a class A \x7b\n" ++
        "    @MainActor public static let shared = A()\n\x7d") ∧
      ⟨"a"⟩ ∈ (standard.withoutMacros d).attributes ∧ standard.get? "a" = none) ∧
    ∃ d, d.render = "@Singleton @Singleton struct A \x7b\n\x7d" ∧ Declaration.parse d.render = .ok d ∧
      (standard.expandSource d.render {}).result = .error (.unsupportedTarget "Singleton" "struct") := by
  have hcall : Invocation.parse (Invocation.ofExpressions "doubleValue" [.integer "10"]).render =
      .ok (Invocation.ofExpressions "doubleValue" [.integer "10"]) := by decide +kernel
  have hclass : Declaration.parse (Declaration.body .reference "A" [] [⟨"a"⟩, ⟨"Singleton"⟩] []).render =
      .ok (.body .reference "A" [] [⟨"a"⟩, ⟨"Singleton"⟩] []) := by decide +kernel
  have hstruct : Declaration.parse
      (Declaration.body .struct "A" [] [⟨"Singleton"⟩, ⟨"Singleton"⟩] []).render =
      .ok (.body .struct "A" [] [⟨"Singleton"⟩, ⟨"Singleton"⟩] []) := by decide +kernel
  have hmember : ⟨"a"⟩ ∈
      (standard.withoutMacros (.body .reference "A" [] [⟨"a"⟩, ⟨"Singleton"⟩] [])).attributes := by decide
  obtain ⟨hcalls, hdeclarations, hattributes⟩ := expandSource_render standard {}
  refine ⟨⟨_, by decide +kernel, hcall, (hcalls _ hcall).trans ?_⟩,
    ⟨_, by decide +kernel, hclass, (hdeclarations _ hclass).trans ?_, hmember,
      (hattributes _).1 _ hmember⟩,
    ⟨_, by decide +kernel, hstruct, (hdeclarations _ hstruct).trans ?_⟩⟩ <;>
    decide +kernel

end Registry
end SourceMacros

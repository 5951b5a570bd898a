import SourceMacros.Proofs.Config.Identifiers
import SourceMacros.Proofs.Registry.Source
import SourceMacros.Proofs.Singleton.Run
import SourceMacros.Proofs.TypeDescriptor.Closed

/-! What `Singleton` adds to a class is source again, with nothing left in it to expand,
`expandSource_singleton`. -/

namespace SourceMacros

open Text

namespace Registry

/-- A declaration none of whose attributes is a macro stands for itself. -/
theorem expandSource_of_unmarked (r : Registry) (context : Context) {d : Declaration}
    (h : Declaration.parse d.render = .ok d) (hnone : ∀ a ∈ d.attributes, r.contains a.name = false) :
    (r.expandSource d.render context).result = .ok d.render := by
  have hmarks : (d.attributes.filter fun a => r.contains a.name) = [] := by
    simpa [List.filter_eq_nil_iff] using hnone
  have hsame : r.withoutMacros d = d :=
    Declaration.keepAttributes_eq_self fun a ha => by simp [hnone a ha]
  rw [result_expandSource_declaration r context h, result_expandAttached, hmarks]
  change Except.ok (r.withoutMacros d).render = _
  rw [hsame]

theorem withoutMacros_addMembers (r : Registry) (more : List Declaration) (d : Declaration) :
    r.withoutMacros (d.addMembers more) = (r.withoutMacros d).addMembers more :=
  Declaration.keepAttributes_addMembers _ more d

theorem wellFormed_of_mem_added {context : Context} (hconfig : context.config.validate = .ok ())
    {d : Declaration} (hd : d.WellFormed) {m : Declaration}
    (hm : m ∈ Attachment.added ⟨⟨"Singleton"⟩, context⟩ d) : m.WellFormed ∧ m.levels = 1 := by
  obtain ⟨hname, hexecutor⟩ := Config.validate_eq_ok.1 hconfig
  unfold Attachment.added at hm
  split at hm
  · cases hm
  · rw [List.mem_singleton.1 hm]
    exact ⟨Declaration.wellFormed_accessor hd.isIdentifier_name hname hexecutor, rfl⟩

section Marked

variable {d : Declaration}
  (hmarks : (d.attributes.filter fun a => standard.contains a.name) = [⟨"Singleton"⟩])

include hmarks

theorem withoutMacros_of_marked :
    standard.withoutMacros d = d.keepAttributes fun a => a != ⟨"Singleton"⟩ := by
  refine Declaration.keepAttributes_congr fun a ha => ?_
  cases hmacro : standard.contains a.name with
  | true =>
    have hmem : a ∈ d.attributes.filter fun a => standard.contains a.name :=
      List.mem_filter.2 ⟨ha, hmacro⟩
    rw [hmarks, List.mem_singleton] at hmem
    simp [hmem]
  | false =>
    have hne : a ≠ ⟨"Singleton"⟩ := by
      rintro rfl
      exact absurd hmacro (by decide)
    simp [hne]

/-- Beside the class stands the class with what is added to it. -/
theorem expandSource_of_marked (context : Context) (hclass : d.isClass = true)
    (h : Declaration.parse d.render = .ok d) :
    (standard.expandSource d.render context).result =
      .ok ((standard.withoutMacros d).render ++ "\n\n" ++
        ((standard.withoutMacros d).addMembers
          (Attachment.added ⟨⟨"Singleton"⟩, context⟩ d)).render) := by
  rw [result_expandSource_declaration standard context h, result_expandAttached, hmarks,
    List.mapM_cons, result_expandPeer_class d ⟨⟨"Singleton"⟩, context⟩ hclass rfl,
    ← withoutMacros_addMembers]
  rfl

end Marked

/-- The expansion of a class with the one macro `Singleton` is the class without the attribute, twice, the
second with the constant unless that is stopped. Both are read back and expand to themselves. -/
theorem expandSource_singleton (context : Context) (hconfig : context.config.validate = .ok ())
    (name : String) (modifiers : List Modifier) (attributes : List Attribute) (members : List Declaration)
    (hd : (Declaration.body .reference name modifiers attributes members).WellFormed)
    (hlevels : (Declaration.body .reference name modifiers attributes members).levels ≤ Nesting.limit)
    (hmarks : (attributes.filter fun a => standard.contains a.name) = [⟨"Singleton"⟩]) :
    let config := context.config.singleton
    let kept := attributes.filter fun a => a != ⟨"Singleton"⟩
    let plain := Declaration.body .reference name modifiers kept members
    let complete := Declaration.body .reference name modifiers kept (members ++
      if config.skipExisting && members.any (·.name == config.accessorName) then []
      else [.binding ⟨config.accessorName, none, some (.call (.identifier name) []), true, [.public, .static],
        config.executor.toList.map Attribute.mk⟩])
    (standard.expandSource (Declaration.body .reference name modifiers attributes members).render
        context).result = .ok (plain.render ++ "\n\n" ++ complete.render) ∧
      Declaration.parse plain.render = .ok plain ∧ Declaration.parse complete.render = .ok complete ∧
      ∀ context' : Context, (standard.expandSource plain.render context').result = .ok plain.render ∧
        (standard.expandSource complete.render context').result = .ok complete.render := by
  intro config kept plain complete
  have hplain : plain.WellFormed := hd.keepAttributes _
  have hlevels' : plain.levels ≤ Nesting.limit := (Declaration.levels_keepAttributes _ _).trans_le hlevels
  have hcomplete : complete.WellFormed := hplain.addMembers fun m hm => (wellFormed_of_mem_added hconfig hd hm).1
  have hlevelsMore : complete.levels ≤ Nesting.limit :=
    Declaration.levels_addMembers_le (d := plain) hlevels' fun m hm => by
      rw [(wellFormed_of_mem_added hconfig hd hm).2]
      decide
  have hread := hplain.parse_written.1.2 hlevels'
  have hreadMore := hcomplete.parse_written.1.2 hlevelsMore
  have hwithout : standard.withoutMacros (.body .reference name modifiers attributes members) = plain :=
    withoutMacros_of_marked hmarks
  have hunmarked : ∀ a ∈ kept, standard.contains a.name = false := by
    intro a ha
    change a ∈ plain.attributes at ha
    rw [← hwithout] at ha
    simp [contains, get?_of_mem_withoutMacros standard _ ha]
  refine ⟨?_, hread, hreadMore, fun context' => ⟨expandSource_of_unmarked standard context' hread hunmarked,
    expandSource_of_unmarked standard context' hreadMore hunmarked⟩⟩
  have hrun := expandSource_of_marked (d := .body .reference name modifiers attributes members) hmarks context
    rfl (hd.parse_written.1.2 hlevels)
  rwa [hwithout] at hrun

/-- A class with a variable of a list type, to which the constant is added. -/
theorem expandSource_singleton_list :
    (standard.expandSource "@Singleton @a class A \x7b\n    var b: [Int] = 1\n\x7d" {}).result =
      .ok ("@a class A \x7b\n    var b: [Int] = 1\n\x7d" ++ "\n\n" ++
        "@a class A \x7b\n    var b: [Int] = 1\n    @MainActor public static let shared = A()\n\x7d") ∧
    Declaration.parse "@a class A \x7b\n    var b: [Int] = 1\n\x7d" =
      .ok (.body .reference "A" [] [⟨"a"⟩] [.binding ⟨"b", some "[Int]", some (.integer "1"), false, [], []⟩]) ∧
    Declaration.parse
        "@a class A \x7b\n    var b: [Int] = 1\n    @MainActor public static let shared = A()\n\x7d" =
      .ok (.body .reference "A" [] [⟨"a"⟩] [.binding ⟨"b", some "[Int]", some (.integer "1"), false, [], []⟩,
        .binding ⟨"shared", none, some (.call (.identifier "A") []), true, [.public, .static],
          [⟨"MainActor"⟩]⟩]) ∧
    ∀ context : Context,
      (standard.expandSource "@a class A \x7b\n    var b: [Int] = 1\n\x7d" context).result =
        .ok "@a class A \x7b\n    var b: [Int] = 1\n\x7d" ∧
      (standard.expandSource
        "@a class A \x7b\n    var b: [Int] = 1\n    @MainActor public static let shared = A()\n\x7d"
          context).result =
        .ok "@a class A \x7b\n    var b: [Int] = 1\n    @MainActor public static let shared = A()\n\x7d" := by
  have htype : IsClosedType "[Int]" :=
    TypeDescriptor.isClosedType_render (.array (.primitive .int)) trivial
  have hinteger : (Expression.integer "1").Shaped StandsAlone := by
    rw [Expression.Shaped]
    decide
  have hclass : (Declaration.body .reference "A" [] [⟨"Singleton"⟩, ⟨"a"⟩]
      [.binding ⟨"b", some "[Int]", some (.integer "1"), false, [], []⟩]).WellFormed :=
    ⟨by decide, by decide, ⟨by simp, by decide, by simpa using htype, by simpa using hinteger⟩, trivial⟩
  have hrender : (Declaration.body .reference "A" [] [⟨"Singleton"⟩, ⟨"a"⟩]
      [.binding ⟨"b", some "[Int]", some (.integer "1"), false, [], []⟩]).render =
      "@Singleton @a class A \x7b\n    var b: [Int] = 1\n\x7d" := by cbv
  have hplain : (Declaration.body .reference "A" [] [⟨"a"⟩]
      [.binding ⟨"b", some "[Int]", some (.integer "1"), false, [], []⟩]).render =
      "@a class A \x7b\n    var b: [Int] = 1\n\x7d" := by cbv
  have hcomplete : (Declaration.body .reference "A" [] [⟨"a"⟩]
      [.binding ⟨"b", some "[Int]", some (.integer "1"), false, [], []⟩,
        .binding ⟨"shared", none, some (.call (.identifier "A") []), true, [.public, .static],
          [⟨"MainActor"⟩]⟩]).render =
      "@a class A \x7b\n    var b: [Int] = 1\n    @MainActor public static let shared = A()\n\x7d" := by cbv
  have hrun := expandSource_singleton {} (by decide) "A" [] [⟨"Singleton"⟩, ⟨"a"⟩] _ hclass (by decide) (by decide)
  rw [hrender] at hrun
  rw [← hplain, ← hcomplete]
  exact hrun

end Registry
end SourceMacros

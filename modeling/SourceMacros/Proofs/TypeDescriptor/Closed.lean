import SourceMacros.Proofs.Declaration.RoundTrip
import SourceMacros.Proofs.TypeDescriptor.Reading

/-! The text that is written for a type can stand behind the name of a variable, `isClosedType_render`. It
nests as deep as lists and dictionaries do in the type, `bracketDepth_written`; optional types do not
count. -/

namespace SourceMacros

open Text Reader Nesting

/-- With any number of brackets open the text holds no quote and leaves as many open. -/
def Closes (s : List Char) : Prop :=
  ∀ n r, isBracketed (fun _ => false) n (s ++ r) = isBracketed (fun _ => false) n r

namespace Closes

variable {s t : List Char}

theorem nil : Closes [] := fun _ _ => rfl

theorem append (hs : Closes s) (ht : Closes t) : Closes (s ++ t) := by
  intro n r
  rw [List.append_assoc, hs, ht]

theorem quiet_single {c : Char} (hc : isQuiet c = true) : Closes [c] := by
  intro n r
  simp only [isQuiet, Bool.and_eq_true, bne_iff_ne, ne_eq, Bool.not_eq_true'] at hc
  simp [isBracketed, hc]

theorem quiet (hs : ∀ c ∈ s, isQuiet c = true) : Closes s := by
  induction s with
  | nil => exact nil
  | cons c s ih =>
    obtain ⟨hc, hs⟩ := List.forall_mem_cons.1 hs
    exact (quiet_single hc).append (ih hs)

theorem bracket (hs : Closes s) : Closes ('[' :: (s ++ [']'])) := by
  intro n r
  have hopen : ∀ u, isBracketed (fun _ => false) n ('[' :: u) =
      isBracketed (fun _ => false) (n + 1) u := by
    intro u
    simp [isBracketed, isOpener]
  have hclose : isBracketed (fun _ => false) (n + 1) (']' :: r) = isBracketed (fun _ => false) n r := by
    simp [isBracketed, isOpener, isCloser]
  rw [List.cons_append, List.append_assoc, List.singleton_append, hopen, hs, hclose]

theorem isBracketed_eq (hs : Closes s) : isBracketed (fun _ => false) 0 s = true := by
  have h := hs 0 []
  rwa [List.append_nil] at h

end Closes

namespace TypeDescriptor

/-- The largest number of lists and dictionaries inside each other. -/
def brackets : TypeDescriptor → Nat
  | primitive _ => 0
  | custom _ => 0
  | optional wrapped => wrapped.brackets
  | array element => element.brackets + 1
  | dictionary key value => max key.brackets value.brackets + 1

theorem isQuiet_signs : ∀ c ∈ [':', ' '], isQuiet c = true := by
  have hsigns : [':', ' '].all isQuiet = true := by decide
  exact List.all_eq_true.1 hsigns

theorem closes_written (t : TypeDescriptor) (h : t.Named) : Closes t.written := by
  induction t with
  | primitive p => exact Closes.quiet (isQuiet_of_mem_identifier (isIdentifier_primitive p))
  | custom name => exact Closes.quiet (isQuiet_of_mem_identifier h.identifier)
  | optional wrapped ih => exact (ih h).append (Closes.quiet_single (by decide))
  | array element ih => exact (ih h).bracket
  | dictionary key value ih ih' =>
    have hinside := ((ih h.1).append ((Closes.quiet isQuiet_signs).append (ih' h.2))).bracket
    simpa [written] using hinside

theorem spans_written (t : TypeDescriptor) (h : t.Named) : Spans false t.written t.brackets := by
  induction t with
  | primitive p => exact spans_identifier (isIdentifier_primitive p)
  | custom name => exact spans_identifier h.identifier
  | optional wrapped ih =>
    have hsign : Spans false ['?'] 0 := Spans.quiet_single (by decide)
    simpa [written, brackets] using (ih h).append hsign
  | array element ih => exact (ih h).bracket (by decide) (by decide)
  | dictionary key value ih ih' =>
    have hinside := ((ih h.1).append ((Spans.quiet isQuiet_signs).append (ih' h.2))).bracket
      (o := '[') (k := ']') (by decide) (by decide)
    simpa [written, brackets] using hinside

theorem bracketDepth_written (t : TypeDescriptor) (h : t.Named) :
    bracketDepth 0 t.written = t.brackets := by
  have hcounted := (spans_of_isBracketed (closes_written t h).isBracketed_eq).peak_eq [] (by simp)
  have hspans := (spans_written t h).peak_eq [] (by simp)
  simpa using hcounted.symm.trans hspans

theorem trimmed_written (t : TypeDescriptor) (h : t.Named) :
    t.written ≠ [] ∧ Trimmed t.written := by
  have hname : ∀ name : String, isIdentifier name = true → name.toList ≠ [] ∧ Trimmed name.toList := by
    intro name hname
    obtain ⟨c, s, hs, -⟩ := exists_cons_of_isIdentifier hname
    exact ⟨by simp [hs], trimmed_identifier hname⟩
  have hbracket : ∀ s : List Char, Trimmed ('[' :: (s ++ [']'])) := fun s =>
    ⟨fun c hc => by rw [← Option.some.inj hc]; decide, ended_append_singleton ('[' :: s) (by decide)⟩
  induction t with
  | primitive p => exact hname _ (isIdentifier_primitive p)
  | custom name => exact hname _ h.identifier
  | optional wrapped ih =>
    obtain ⟨hne, htrimmed⟩ := ih h
    refine ⟨by simp [written], fun c hc => htrimmed.head c ?_, ended_append_singleton _ (by decide)⟩
    rwa [written, List.head?_append_of_ne_nil _ hne] at hc
  | array element => exact ⟨List.cons_ne_nil _ _, hbracket _⟩
  | dictionary key value =>
    refine ⟨List.cons_ne_nil _ _, ?_⟩
    simpa [written] using hbracket (key.written ++ ':' :: ' ' :: value.written)

theorem inType_of_mem_written (t : TypeDescriptor) (h : t.Named) :
    ∀ c ∈ t.written, inType c = true := by
  have hname : ∀ name : String, isIdentifier name = true → ∀ c ∈ name.toList, inType c = true := by
    intro name hname c hc
    have hword := continuesIdentifier_of_mem hname hc
    simp only [inType, Bool.not_eq_true', Bool.or_eq_false_iff, beq_eq_false_iff_ne]
    refine ⟨⟨⟨⟨⟨?_, ?_⟩, ?_⟩, ?_⟩, ?_⟩, ?_⟩ <;>
      (rintro rfl; exact absurd hword (by decide))
  induction t with
  | primitive p => exact hname _ (isIdentifier_primitive p)
  | custom name => exact hname _ h.identifier
  | optional wrapped ih =>
    exact List.forall_mem_append.2 ⟨ih h, List.forall_mem_singleton.2 (by decide)⟩
  | array element ih =>
    exact List.forall_mem_cons.2
      ⟨by decide, List.forall_mem_append.2 ⟨ih h, List.forall_mem_singleton.2 (by decide)⟩⟩
  | dictionary key value ih ih' =>
    simp only [written, List.forall_mem_cons, List.forall_mem_append]
    exact ⟨by decide, ih h.1, by decide, by decide, ih' h.2, by decide, by simp⟩

/-- The text of a type whose custom names are names may be that of a variable. -/
theorem isClosedType_render (t : TypeDescriptor) (h : t.Named) : IsClosedType t.render := by
  obtain ⟨hne, htrimmed⟩ := trimmed_written t h
  refine ⟨⟨?_, ?_, ?_, ?_⟩, ?_⟩ <;> rw [toList_render]
  · exact hne
  · exact inType_of_mem_written t h
  · intro c hc
    by_contra hspace
    have hblank := isBlank_of_isGap (isGap_of_isSpace (by simpa using hspace))
    rw [htrimmed.head c hc] at hblank
    cases hblank
  · exact htrimmed.ended
  · exact (closes_written t h).isBracketed_eq

end TypeDescriptor
end SourceMacros

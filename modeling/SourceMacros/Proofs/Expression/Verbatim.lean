import SourceMacros.Proofs.Expression.Reading

/-! The verbatim texts in an expression, `Expression.others`. How a text spells an expression depends on
nothing but how it spells these, `Expression.Spelled.mono`. -/

namespace SourceMacros

open Text Reader

mutual

def Expression.others : Expression → List String
  | .integer _ => []
  | .string segments => segmentOthers segments
  | .dictionary entries => entryOthers entries
  | .identifier _ => []
  | .call callee arguments => callee.others ++ argumentOthers arguments
  | .other text => [text]

def segmentOthers : List Segment → List String
  | [] => []
  | .text _ :: segments => segmentOthers segments
  | .interpolation value :: segments => value.others ++ segmentOthers segments

def entryOthers : List Entry → List String
  | [] => []
  | ⟨key, value⟩ :: entries => key.others ++ (value.others ++ entryOthers entries)

def argumentOthers : List Argument → List String
  | [] => []
  | ⟨_, value⟩ :: arguments => value.others ++ argumentOthers arguments

end

section Shaped

variable {other : String → Prop}

mutual

theorem Expression.Shaped.others : (e : Expression) → e.Shaped other → ∀ text ∈ e.others, other text
  | .integer _, _, text, ht => by simp [Expression.others] at ht
  | .string segments, h, text, ht => SegmentsShaped.others segments h text ht
  | .dictionary entries, h, text, ht => EntriesShaped.others entries h text ht
  | .identifier _, _, text, ht => by simp [Expression.others] at ht
  | .call callee arguments, ⟨⟨name, hcallee, _⟩, h⟩, text, ht => by
    subst hcallee
    exact ArgumentsShaped.others arguments h text (by simpa [Expression.others] using ht)
  | .other _, h, text, ht => by
    obtain rfl : text = _ := by simpa [Expression.others] using ht
    exact h

theorem SegmentsShaped.others : (segments : List Segment) → SegmentsShaped other segments →
    ∀ text ∈ segmentOthers segments, other text
  | [], _, text, ht => by simp [segmentOthers] at ht
  | .text _ :: segments, ⟨_, h⟩, text, ht => SegmentsShaped.others segments h text ht
  | .interpolation value :: segments, ⟨hvalue, h⟩, text, ht => by
    rcases List.mem_append.1 ht with ht | ht
    · exact Expression.Shaped.others value hvalue text ht
    · exact SegmentsShaped.others segments h text ht

theorem EntriesShaped.others : (entries : List Entry) → EntriesShaped other entries →
    ∀ text ∈ entryOthers entries, other text
  | [], _, text, ht => by simp [entryOthers] at ht
  | ⟨key, value⟩ :: entries, ⟨hkey, hvalue, h⟩, text, ht => by
    simp only [entryOthers, List.mem_append] at ht
    rcases ht with ht | ht | ht
    · exact Expression.Shaped.others key hkey text ht
    · exact Expression.Shaped.others value hvalue text ht
    · exact EntriesShaped.others entries h text ht

theorem ArgumentsShaped.others : (arguments : List Argument) → ArgumentsShaped other arguments →
    ∀ text ∈ argumentOthers arguments, other text
  | [], _, text, ht => by simp [argumentOthers] at ht
  | ⟨_, value⟩ :: arguments, ⟨_, hvalue, h⟩, text, ht => by
    rcases List.mem_append.1 ht with ht | ht
    · exact Expression.Shaped.others value hvalue text ht
    · exact ArgumentsShaped.others arguments h text ht

end

end Shaped

section Verbatims

variable {other : String → Prop}

mutual

/-- What follows a verbatim text where it is written stops it. -/
theorem Expression.Shaped.verbatims : (e : Expression) → {c : List Char} → e.Shaped other →
    Stops c → ∀ p ∈ e.verbatims c, other p.1 ∧ Stops p.2
  | .integer _, _, _, _, p, hp => by simp [Expression.verbatims] at hp
  | .string segments, c, he, _, p, hp => SegmentsShaped.verbatims segments he p hp
  | .dictionary entries, c, he, _, p, hp => EntriesShaped.verbatims entries he (stops_cons rfl) p hp
  | .identifier _, _, _, _, p, hp => by simp [Expression.verbatims] at hp
  | .call callee arguments, c, ⟨⟨name, hcallee, _⟩, he⟩, _, p, hp => by
    subst hcallee
    exact ArgumentsShaped.verbatims arguments he (stops_cons rfl) p hp
  | .other text, c, he, hc, p, hp => by
    obtain rfl : p = (text, c) := by simpa [Expression.verbatims] using hp
    exact ⟨he, hc⟩

theorem SegmentsShaped.verbatims : (segments : List Segment) → {c : List Char} →
    SegmentsShaped other segments →
    ∀ p ∈ segmentVerbatims segments c, other p.1 ∧ Stops p.2
  | [], _, _, p, hp => by simp [segmentVerbatims] at hp
  | .text _ :: segments, c, ⟨_, h⟩, p, hp => SegmentsShaped.verbatims segments h p hp
  | .interpolation value :: segments, c, ⟨hvalue, h⟩, p, hp => by
    rcases List.mem_append.1 hp with hp | hp
    · exact Expression.Shaped.verbatims value hvalue (stops_cons rfl) p hp
    · exact SegmentsShaped.verbatims segments h p hp

theorem EntriesShaped.verbatims : (entries : List Entry) → {c : List Char} →
    EntriesShaped other entries → Stops c →
    ∀ p ∈ entryVerbatims entries c, other p.1 ∧ Stops p.2
  | [], _, _, _, p, hp => by simp [entryVerbatims] at hp
  | ⟨key, value⟩ :: entries, c, ⟨hkey, hvalue, h⟩, hc, p, hp => by
    rcases List.mem_append.1 hp with hp | hp
    · rcases List.mem_append.1 hp with hp | hp
      · exact Expression.Shaped.verbatims key hkey (stops_cons rfl) p hp
      · exact Expression.Shaped.verbatims value hvalue (hc.others _) p hp
    · exact EntriesShaped.verbatims entries h hc p hp

theorem ArgumentsShaped.verbatims : (arguments : List Argument) → {c : List Char} →
    ArgumentsShaped other arguments → Stops c →
    ∀ p ∈ argumentVerbatims arguments c, other p.1 ∧ Stops p.2
  | [], _, _, _, p, hp => by simp [argumentVerbatims] at hp
  | ⟨_, value⟩ :: arguments, c, ⟨_, hvalue, h⟩, hc, p, hp => by
    rcases List.mem_append.1 hp with hp | hp
    · exact Expression.Shaped.verbatims value hvalue (hc.others _) p hp
    · exact ArgumentsShaped.verbatims arguments h hc p hp

end

end Verbatims

section Mono

variable {verbatim verbatim' : String → List Char → List Char → Prop}

/-- In front of the end of an expression, what spells one of the texts one way spells it the other way. -/
def Refines (verbatim verbatim' : String → List Char → List Char → Prop) (texts : List String) : Prop :=
  ∀ text ∈ texts, ∀ u c, endsExpression c = true → verbatim text u c → verbatim' text u c

theorem Refines.left {texts texts' : List String} (h : Refines verbatim verbatim' (texts ++ texts')) :
    Refines verbatim verbatim' texts := fun text ht => h text (List.mem_append_left _ ht)

theorem Refines.right {texts texts' : List String} (h : Refines verbatim verbatim' (texts ++ texts')) :
    Refines verbatim verbatim' texts' := fun text ht => h text (List.mem_append_right _ ht)

theorem Continues.mono {α : Type} {bracket : Char} {items : List α} {spelled spelled' : List Char → Prop}
    {t : List Char} (h : Continues bracket items spelled t) (hmono : ∀ t, spelled t → spelled' t) :
    Continues bracket items spelled' t := by
  rcases h with h | ⟨g, s, hg, rfl, hs⟩
  · exact .inl h
  · exact .inr ⟨g, s, hg, rfl, hmono s hs⟩

mutual

theorem Expression.Spelled.mono : (e : Expression) → {u c : List Char} →
    Refines verbatim verbatim' e.others → e.Spelled verbatim u c →
    (∀ text, e = .other text → endsExpression c = true) → e.Spelled verbatim' u c
  | .integer _, _, _, _, hu, _ => hu
  | .string segments, _, _, hv, ⟨t, hu, ht⟩, _ => ⟨t, hu, SegmentsSpelled.mono segments hv ht⟩
  | .dictionary entries, u, c, hv, hu, _ => by
    rcases hu with hu | ⟨t, hu, ht⟩
    · exact .inl hu
    · exact .inr ⟨t, hu, EntriesSpelled.mono entries hv ht⟩
  | .identifier _, _, _, _, hu, _ => hu
  | .call callee arguments, u, c, hv, ⟨name, t, hcallee, hname, hu, hlist⟩, _ => by
    refine ⟨name, t, hcallee, hname, hu, ?_⟩
    rcases hlist with hlist | hlist
    · exact .inl hlist
    · exact .inr (ArgumentsSpelled.mono arguments hv.right hlist)
  | .other text, u, c, hv, hu, hc => hv text (by simp [Expression.others]) u c (hc text rfl) hu

theorem SegmentsSpelled.mono : (segments : List Segment) → {t c : List Char} →
    Refines verbatim verbatim' (segmentOthers segments) → SegmentsSpelled verbatim segments t c →
    SegmentsSpelled verbatim' segments t c
  | [], _, _, _, ht => ht
  | .text _ :: segments, _, _, hv, ⟨hvalue, t', ht, ht'⟩ =>
    ⟨hvalue, t', ht, SegmentsSpelled.mono segments hv ht'⟩
  | .interpolation value :: segments, _, _, hv, ⟨g, u, h, t', hg, hh, ht, hvalue, hends, ht'⟩ =>
    ⟨g, u, h, t', hg, hh, ht, Expression.Spelled.mono value hv.left hvalue (fun _ _ => hends), hends,
      SegmentsSpelled.mono segments hv.right ht'⟩

theorem EntriesSpelled.mono : (entries : List Entry) → {t c : List Char} →
    Refines verbatim verbatim' (entryOthers entries) → EntriesSpelled verbatim entries t c →
    EntriesSpelled verbatim' entries t c
  | ⟨key, value⟩ :: entries, _, _, hv,
      ⟨g, u, h, k, v, t', hg, hh, hk, ht, hkey, hends, hvalue, hends', ht'⟩ =>
    ⟨g, u, h, k, v, t', hg, hh, hk, ht, Expression.Spelled.mono key hv.left hkey (fun _ _ => hends), hends,
      Expression.Spelled.mono value hv.right.left hvalue (fun _ _ => hends'), hends',
      ht'.mono fun _ => EntriesSpelled.mono entries hv.right.right⟩

theorem ArgumentsSpelled.mono : (arguments : List Argument) → {t c : List Char} →
    Refines verbatim verbatim' (argumentOthers arguments) → ArgumentsSpelled verbatim arguments t c →
    ArgumentsSpelled verbatim' arguments t c
  | ⟨_, value⟩ :: arguments, _, _, hv, ⟨g, u, t', hg, ht, hvalue, hends, ht'⟩ =>
    ⟨g, u, t', hg, ht, Expression.Spelled.mono value hv.left hvalue (fun _ _ => hends), hends,
      ht'.mono fun _ => ArgumentsSpelled.mono arguments hv.right⟩

end

end Mono

end SourceMacros

import SourceMacros.Proofs.Expression.Rendered
import SourceMacros.Proofs.GenerateStruct.Run
import SourceMacros.Proofs.Nesting.Place
import SourceMacros.Proofs.Reader.Places
import SourceMacros.Proofs.Registry.Source
import SourceMacros.Proofs.Results

/-! What the offsets in the errors of expansion count: the bytes behind the blanks in front of the source,
which are trimmed before it is read, `expandSource_offset`. -/

namespace SourceMacros

open Text Reader Nesting

theorem Text.eq_nil_of_byteSize {s : List Char} (h : byteSize s = 0) : s = [] := by
  cases s with
  | nil => rfl
  | cons c s =>
    rw [byteSize_cons, Nat.add_eq_zero_iff] at h
    exact absurd h.1 c.utf8Size_pos.ne'

namespace UnreadableCause

def moved (n : Nat) : UnreadableCause → UnreadableCause
  | .endOfInput k => .endOfInput (n + k)
  | .unexpected k near => .unexpected (n + k) near
  | .tooDeep k => .tooDeep (n + k)
  | .stated reason => .stated reason

/-- What the cause says of its offset holds of the text: nothing but blanks stand there, or what is shown, or
what opens one level too many for the first time. -/
def PointsInto (s : List Char) : UnreadableCause → Prop
  | .endOfInput k => ∃ rest, StandsAt k rest s ∧ Blank rest
  | .unexpected k near => near ≠ "" ∧ ∃ rest, StandsAt k rest s ∧ near.toList <+: rest
  | .tooDeep k => ∃ before place, s = before ++ place ∧ k = byteSize before ∧ Exceeds limit [] before place
  | .stated _ => True

variable {cause : UnreadableCause} {lead s trail : List Char} {k : Nat}

@[simp] theorem moved_zero : cause.moved 0 = cause := by cases cause <;> simp [moved]

/-- Blanks behind the text make no difference, and those in front of it count. -/
theorem PointsInto.moved (h : cause.PointsInto s) (hlead : Blank lead) (htrail : Blank trail) :
    (cause.moved (byteSize lead)).PointsInto (lead ++ (s ++ trail)) := by
  cases cause with
  | endOfInput k =>
    obtain ⟨rest, ⟨before, rfl, rfl⟩, hrest⟩ := h
    exact ⟨rest ++ trail, ⟨lead ++ before, by simp, by simp⟩, hrest.append htrail⟩
  | unexpected k near =>
    obtain ⟨hne, rest, ⟨before, rfl, rfl⟩, hrest⟩ := h
    exact ⟨hne, rest ++ trail, ⟨lead ++ before, by simp, by simp⟩,
      hrest.trans (List.prefix_append rest trail)⟩
  | tooDeep k =>
    obtain ⟨before, place, rfl, rfl, hexceeds⟩ := h
    exact ⟨lead ++ before, place ++ trail, by simp, by simp, hexceeds.idle (idle_blank hlead) trail⟩
  | stated reason => trivial

theorem pointsInto_endOfInput_iff (hs : Trimmed s) (h : (endOfInput k).PointsInto s) (hlead : Blank lead)
    (htrail : Blank trail) :
    (endOfInput k).PointsInto (lead ++ (s ++ trail)) ↔ lead = [] ∨ s = [] := by
  constructor
  · rintro ⟨rest, ⟨before, hsource, hk⟩, hrest⟩
    by_cases hne : s = []
    · exact .inr hne
    left
    obtain ⟨end', ⟨t, rfl, rfl⟩, hend⟩ := h
    obtain rfl : end' = [] := hs.ended.eq_nil_of_blank hend
    rw [List.append_nil] at hs hne hsource
    have hended : Ended (lead ++ t) := hs.ended.append hne lead
    rw [← List.append_assoc, List.append_eq_append_iff] at hsource
    -- The blanks behind `before` are behind the text as well.
    have hbefore : ∃ more, before = lead ++ t ++ more := by
      rcases hsource with ⟨more, hmore, -⟩ | ⟨less, hless, rfl⟩
      · exact ⟨more, hmore⟩
      · rw [hless] at hended
        obtain rfl := hended.eq_nil_of_blank fun c hc => hrest c (List.mem_append_left trail hc)
        exact ⟨[], by simpa using hless.symm⟩
    obtain ⟨more, rfl⟩ := hbefore
    rw [byteSize_append, byteSize_append] at hk
    exact eq_nil_of_byteSize (by omega)
  · rintro (rfl | rfl)
    · have hmoved := h.moved hlead htrail
      rwa [byteSize_nil, moved_zero] at hmoved
    · obtain ⟨rest, ⟨before, hnil, rfl⟩, -⟩ := h
      obtain ⟨rfl, -⟩ := List.append_eq_nil_iff.1 hnil.symm
      exact ⟨_, ⟨[], rfl, rfl⟩, hlead.append htrail⟩

theorem pointsInto_tooDeep_iff (h : (tooDeep k).PointsInto s) (hlead : Blank lead) (htrail : Blank trail) :
    (tooDeep k).PointsInto (lead ++ (s ++ trail)) ↔ lead = [] := by
  constructor
  · rintro ⟨before, place, hsource, hk, hexceeds⟩
    obtain ⟨before', place', hsource', hk', hexceeds'⟩ := h.moved hlead htrail
    have hplace := (tooDeepAt_eq_some_iff (Nat.zero_le limit)).2 ⟨before, hsource, hexceeds⟩
    have hplace' := (tooDeepAt_eq_some_iff (Nat.zero_le limit)).2 ⟨before', hsource', hexceeds'⟩
    obtain rfl : place = place' := Option.some.inj (hplace.symm.trans hplace')
    obtain rfl : before = before' := List.append_cancel_right (hsource.symm.trans hsource')
    exact eq_nil_of_byteSize (by omega)
  · rintro rfl
    have hmoved := h.moved hlead htrail
    rwa [byteSize_nil, moved_zero] at hmoved

end UnreadableCause

theorem Reader.pointsInto_of_read {α : Type} {p : Reader α} {source : String} {cause : UnreadableCause}
    (hp : Stays source.toList p) (h : read p source = .error (.unreadable cause)) :
    cause.PointsInto source.toList := by
  cases hdeep : tooDeepAt limit [] source.toList with
  | some place =>
    rw [read_of_tooDeep hdeep] at h
    obtain rfl := SyntaxError.unreadable.inj (Except.error.inj h)
    obtain ⟨before, hsource, hexceeds⟩ := (tooDeepAt_eq_some_iff (Nat.zero_le limit)).1 hdeep
    exact ⟨before, place, hsource, by rw [hsource, offset_append], hexceeds⟩
  | none =>
    obtain ⟨place, hplace, herror⟩ := read_eq_error hp hdeep h
    obtain rfl := SyntaxError.unreadable.inj herror
    have hstands := standsAt_offset hplace
    cases place with
    | nil => exact ⟨[], hstands, Blank.nil⟩
    | cons c rest =>
      refine ⟨by simp, c :: rest, hstands, ?_⟩
      rw [String.toList_ofList]
      exact List.take_prefix 24 (c :: rest)

/-- The macro itself comes to the error for some call, or for some attribute and declaration. -/
def MacroEntry.Reports (e : MacroEntry) (context : Context) (error : ExpansionError) : Prop :=
  match e.expander with
  | .expression expand => ∃ v, (expand v context).result = .error error
  | .declaration expand => ∃ v, (expand v context).result = .error error
  | .peer expand => ∃ mark target, (expand mark target context).result = .error error

namespace Registry

variable {r : Registry} {context : Context} {error : SyntaxError}

theorem reports_of_expandInvocation {v : Invocation}
    (h : (r.expandInvocation v context).result = .error (.unreadable error)) :
    ∃ e ∈ r.entries, e.Reports context (.unreadable error) := by
  unfold expandInvocation at h
  cases hget : r.get? v.name with
  | none =>
    rw [find_eq_fail r hget, Expansion.fail_bind] at h
    cases h
  | some e =>
    obtain ⟨name, expander⟩ := e
    refine ⟨_, List.mem_of_find?_eq_some hget, ?_⟩
    rw [find_eq_done r hget, Expansion.done_bind] at h
    cases expander with
    | expression expand =>
      exact ⟨v, except_map_eq_error.1 ((Expansion.result_bind_pure (expand v context) _).symm.trans h)⟩
    | declaration expand =>
      exact ⟨v, except_map_eq_error.1 ((Expansion.result_bind_pure (expand v context) _).symm.trans h)⟩
    | peer expand => cases h

theorem reports_of_expandPeer {mark : Attribute} {target : Declaration}
    (h : (r.expandPeer mark target context).result = .error (.unreadable error)) :
    ∃ e ∈ r.entries, e.Reports context (.unreadable error) := by
  unfold expandPeer at h
  cases hget : r.get? mark.name with
  | none =>
    rw [find_eq_fail r hget, Expansion.fail_bind] at h
    cases h
  | some e =>
    obtain ⟨name, expander⟩ := e
    refine ⟨_, List.mem_of_find?_eq_some hget, ?_⟩
    rw [find_eq_done r hget, Expansion.done_bind] at h
    cases expander with
    | expression expand => cases h
    | declaration expand => cases h
    | peer expand => exact ⟨mark, target, h⟩

theorem reports_of_expandAttached {d : Declaration}
    (h : (r.expandAttached d context).result = .error (.unreadable error)) :
    ∃ e ∈ r.entries, e.Reports context (.unreadable error) := by
  rw [result_expandAttached, except_map_eq_error] at h
  obtain ⟨mark, -, hmark⟩ := exists_of_mapM_eq_error h
  exact reports_of_expandPeer hmark

theorem error_or_of_read {α β : Type} {read : Except SyntaxError α} {f : α → Expansion β}
    (h : (Expansion.ofExcept (read.mapError .unreadable) >>= f).result = .error (.unreadable error)) :
    read = .error error ∨ ∃ a, (f a).result = .error (.unreadable error) := by
  rw [Expansion.result_bind] at h
  cases read with
  | error e =>
    obtain rfl := ExpansionError.unreadable.inj (Except.error.inj h)
    exact .inl rfl
  | ok a => exact .inr ⟨a, h⟩

/-- Where no macro reports it, the error is that of reading the source without the blanks around it. -/
theorem parse_of_expandSource {source : String}
    (h : (r.expandSource source context).result = .error (.unreadable error))
    (hown : ∀ e ∈ r.entries, ¬ e.Reports context (.unreadable error)) :
    Invocation.parse (String.ofList (trim source.toList)) = .error error ∨
      Declaration.parse (String.ofList (trim source.toList)) = .error error := by
  unfold expandSource expandTrimmed at h
  split at h
  case isTrue =>
    rcases error_or_of_read h with hparse | ⟨v, h⟩
    · exact .inl hparse
    · obtain ⟨e, he, hreports⟩ := reports_of_expandInvocation h
      exact absurd hreports (hown e he)
  case isFalse =>
    rcases error_or_of_read h with hparse | ⟨d, h⟩
    · exact .inr hparse
    · obtain ⟨e, he, hreports⟩ := reports_of_expandAttached h
      exact absurd hreports (hown e he)

theorem generateStruct_ne_unreadable (v : Invocation) :
    (Expander.generateStruct v context).result ≠ .error (.unreadable error) := by
  intro h
  rcases Expander.misfit_or_takes v with ⟨reason, hmisfit⟩ | ⟨structName, entries, htakes⟩
  · rw [(Expander.generateStruct_misfit hmisfit context).1] at h
    cases h
  · obtain ⟨name, fields, harguments, hname, hentries⟩ := htakes
    rw [Expander.result_generateStruct harguments hname hentries] at h
    split at h
    case isFalse => cases h
    case isTrue =>
      rcases except_bind_eq_error.1 h with h | ⟨members, -, h⟩
      · rw [Expander.result_fieldsOf] at h
        obtain ⟨f, -, hfield⟩ := exists_of_mapM_eq_error h
        rw [except_map_eq_error] at hfield
        unfold Expander.fieldType at hfield
        split at hfield
        · cases hfield
        · split at hfield <;> cases hfield
      · split at h <;> cases h

theorem standard_not_reports (context : Context) (error : SyntaxError) :
    ∀ e ∈ standard.entries, ¬ e.Reports context (.unreadable error) := by
  have hdouble (v : Invocation) : (Expander.doubleValue v context).result ≠ .error (.unreadable error) := by
    intro h
    unfold Expander.doubleValue at h
    split at h
    · split at h <;> cases h
    · cases h
  have hsingleton (mark : Attribute) (target : Declaration) :
      (Expander.singleton mark target context).result ≠ .error (.unreadable error) := by
    intro h
    unfold Expander.singleton at h
    split at h
    · dsimp only at h
      split at h <;> cases h
    · cases h
  intro e he
  simp only [standard, standardEntries, List.mem_cons, List.not_mem_nil, or_false] at he
  rcases he with rfl | rfl | rfl
  · exact fun ⟨v, hv⟩ => hdouble v hv
  · exact fun ⟨v, hv⟩ => generateStruct_ne_unreadable v hv
  · exact fun ⟨mark, target, h⟩ => hsingleton mark target h

/-- Offsets of refused source count from its first character that is no blank. With blanks in front, those of
the nesting are wrong, and so are those of the end, blank sources apart. -/
theorem expandSource_offset (r : Registry) (context : Context) (source : String) (cause : UnreadableCause)
    (h : (r.expandSource source context).result = .error (.unreadable (.unreadable cause)))
    (hown : ∀ e ∈ r.entries, ¬ e.Reports context (.unreadable (.unreadable cause))) :
    (∀ reason, cause ≠ .stated reason) ∧
    (cause.moved (byteSize (source.toList.takeWhile isBlank))).PointsInto source.toList ∧
    (source.toList.takeWhile isBlank = [] → cause.PointsInto source.toList) ∧
    (∀ k, cause = .endOfInput k → (cause.PointsInto source.toList ↔
      source.toList.takeWhile isBlank = [] ∨ Blank source.toList)) ∧
    ∀ k, cause = .tooDeep k →
      (cause.PointsInto source.toList ↔ source.toList.takeWhile isBlank = []) := by
  have hlead := blank_takeWhile source.toList
  have htrim := trimmed_trim source.toList
  obtain ⟨trail, htrail, hsource⟩ := exists_trim_lead source.toList
  have hread := parse_of_expandSource h hown
  obtain ⟨hpoints, hstated⟩ : cause.PointsInto (trim source.toList) ∧ ∀ reason, cause ≠ .stated reason := by
    rcases hread with hread | hread
    · have hpoints := pointsInto_of_read stays_invocation hread
      rw [String.toList_ofList] at hpoints
      obtain ⟨_, ⟨⟩, hstated⟩ := exists_cause hread
      exact ⟨hpoints, hstated⟩
    · have hpoints := pointsInto_of_read stays_declaration hread
      rw [String.toList_ofList] at hpoints
      obtain ⟨_, ⟨⟩, hstated⟩ := exists_cause hread
      exact ⟨hpoints, hstated⟩
  have hmoved := hpoints.moved hlead htrail
  rw [← hsource] at hmoved
  refine ⟨hstated, hmoved, fun hnone => ?_, ?_, ?_⟩
  · rwa [hnone, byteSize_nil, UnreadableCause.moved_zero] at hmoved
  · rintro k rfl
    have hiff := UnreadableCause.pointsInto_endOfInput_iff htrim hpoints hlead htrail
    rw [← hsource] at hiff
    rw [hiff, trim_eq_nil_iff]
  · rintro k rfl
    have hiff := UnreadableCause.pointsInto_tooDeep_iff hpoints hlead htrail
    rwa [← hsource] at hiff

theorem expandSource_offset_class :
    (standard.expandSource "\u2003class A \x7b" {}).result =
      .error (.unreadable (.unreadable (.endOfInput 9))) ∧
    (∀ e ∈ standard.entries, ¬ e.Reports {} (.unreadable (.unreadable (.endOfInput 9)))) ∧
    (UnreadableCause.endOfInput 12).PointsInto "\u2003class A \x7b".toList ∧
    ¬ (UnreadableCause.endOfInput 9).PointsInto "\u2003class A \x7b".toList := by
  have hrun : (standard.expandSource "\u2003class A \x7b" {}).result =
      .error (.unreadable (.unreadable (.endOfInput 9))) := by decide +kernel
  have hown := standard_not_reports {} (.unreadable (.endOfInput 9))
  obtain ⟨-, hmoved, -, hend, -⟩ := expandSource_offset standard {} _ _ hrun hown
  refine ⟨hrun, hown, hmoved, fun hpoints => ?_⟩
  rcases (hend 9 rfl).1 hpoints with hlead | hblank
  · exact absurd hlead (by decide)
  · exact absurd (hblank 'A' (by decide)) (by decide)

/-- Behind a line end the offset of the end is that of the brace in front of it. -/
theorem expandSource_offset_shifted :
    (standard.expandSource "\nclass A \x7b" {}).result =
      .error (.unreadable (.unreadable (.endOfInput 9))) ∧
    StandsAt 9 ['\x7b'] "\nclass A \x7b".toList ∧
    ¬ (UnreadableCause.endOfInput 9).PointsInto "\nclass A \x7b".toList := by
  have hpoints : (UnreadableCause.endOfInput 9).PointsInto "class A \x7b".toList :=
    ⟨[], ⟨"class A \x7b".toList, rfl, rfl⟩, Blank.nil⟩
  have htrim : Trimmed "class A \x7b".toList := trimmed_of_trim_eq (by decide)
  have hline : Blank ['\n'] := by
    intro c hc
    rw [List.mem_singleton.1 hc]
    decide
  have hiff := UnreadableCause.pointsInto_endOfInput_iff htrim hpoints hline Blank.nil
  refine ⟨by decide +kernel, ⟨"\nclass A ".toList, rfl, rfl⟩, fun hwrong => ?_⟩
  rcases hiff.1 hwrong with hnil | hnil
  · exact absurd hnil (by decide)
  · exact absurd hnil (by decide)

end Registry
end SourceMacros

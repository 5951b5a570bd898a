import SourceMacros.Proofs.Expression.Stepwise
import SourceMacros.Proofs.Reader.Whole

/-! Where reading fails: at an end of the source, for each reader leaves an end of the text it is given,
whether it finds something or not. So the offset of an error is that of a character of the source, or of
its end, and what is shown is the text that stands there, `parse_error_placed`. -/

namespace SourceMacros

open Text Reader Nesting

namespace Reader

variable {α : Type} {source : List Char}

/-- From an end of the source the reader goes on to an end of it, be it the rest or the place of failure. -/
abbrev Stays (source : List Char) (p : Reader α) : Prop :=
  Keeps (· <:+ source) (· <:+ source) (· <:+ source) (· <:+ source) p

theorem suffix_of_cons {c : Char} {s : List Char} (h : c :: s <:+ source) : s <:+ source :=
  (List.suffix_cons c s).trans h

theorem stepwise_suffix (source : List Char) : Stepwise (· <:+ source) fun _ => (· <:+ source) where
  missed _ _ := id
  quiet _ := suffix_of_cons
  opener _ := suffix_of_cons
  closer _ := suffix_of_cons

section Expressions

theorem stays_char (c : Char) : Stays source (char c) := keeps_char (fun _ => id) fun _ => suffix_of_cons

theorem stays_skip (test : Char → Bool) : Stays source (skip test) := keeps_skip fun _ _ _ => suffix_of_cons

theorem stays_symbol (c : Char) : Stays source (symbol c) := (stays_skip _).bind fun _ => stays_char c

theorem stays_identifier : Stays source identifier := (stepwise_suffix source).keeps_identifier (n := 0)

theorem suffix_literalText (s : List Char) : (literalText s).2 <:+ s := ⟨_, literalText_append s⟩

theorem stays_segmentsWithin {p : Reader Expression} (hp : Stays source p) (n : Nat) :
    Stays source (segmentsWithin p n) := by
  induction n with
  | zero => exact keeps_miss fun _ => id
  | succ n ih =>
    intro s hs
    have hend : (literalText s).2 <:+ source := (suffix_literalText s).trans hs
    simp only [segmentsWithin]
    split
    case h_1 r hr => exact suffix_of_cons (hr ▸ hend)
    case h_2 r hr =>
      have hrest : Stays source (do
          let value ← p
          symbol ')'
          let more ← segmentsWithin p n
          return textSegment (literalText s).1 ++ .interpolation value :: more : Reader (List Segment)) :=
        hp.bind fun _ => (stays_symbol ')').bind fun _ => ih.bind fun _ => keeps_pure _ fun _ => id
      exact hrest (suffix_of_cons (suffix_of_cons (hr ▸ hend)))
    case h_3 => exact hend

theorem stays_stringLiteral {p : Reader Expression} (hp : Stays source p) :
    Stays source (stringLiteral p) := by
  have hsegments : Stays source (segments p) := fun s hs => stays_segmentsWithin hp (s.length + 1) hs
  exact (stays_char '"').bind fun _ => hsegments.bind fun _ => keeps_pure _ fun _ => id

theorem stays_verbatim : Stays source verbatim := by
  intro s hs
  unfold verbatim
  dsimp only
  split
  · exact hs
  · exact (show (splitVerbatim 0 .outside s).2 <:+ s from ⟨_, splitVerbatim_append _ _ s⟩).trans hs

theorem stays_expression : Stays source expression :=
  (stepwise_suffix source).keeps_expression (fun hp n => stays_stringLiteral (hp n))
    (fun _ => stays_verbatim) 0

theorem stays_invocation : Stays source invocation :=
  (stays_symbol '#').bind fun _ => stays_identifier.bind fun _ =>
    ((stepwise_suffix source).keeps_argumentList (n := 0) stays_expression).optional.bind fun _ =>
      keeps_pure _ fun _ => id

end Expressions

section Declarations

theorem stays_name : Stays source name := (stays_skip _).bind fun _ => stays_identifier

theorem stays_keyword (word : String) : Stays source (keyword word) := by
  intro s hs
  have hname := stays_name hs
  unfold keyword
  cases hread : name s with
  | done found r =>
    rw [hread] at hname
    dsimp only
    split
    · exact hname
    · exact hs
  | miss r =>
    rw [hread] at hname
    exact hname
  | halt r =>
    rw [hread] at hname
    exact hname

theorem stays_mark : Stays source mark :=
  (stays_symbol '@').bind fun _ => stays_identifier.bind fun _ => keeps_pure _ fun _ => id

theorem stays_modifier : Stays source modifier := by
  refine stays_name.bind fun word => ?_
  cases Modifier.ofKeyword? word with
  | some m => exact keeps_pure m fun _ => id
  | none => exact keeps_miss fun _ => id

theorem stays_bodyKind : Stays source bodyKind :=
  ((stays_keyword _).bind fun _ => keeps_pure _ fun _ => id).orElse
    ((stays_keyword _).bind fun _ => keeps_pure _ fun _ => id)

theorem stays_typeText : Stays source typeText := by
  refine (stays_skip _).bind fun _ s hs => ?_
  split
  · exact hs
  · exact (List.dropWhile_suffix inType).trans hs

theorem stays_binding (attributes : List Attribute) (modifiers : List Modifier) :
    Stays source (binding attributes modifiers) := by
  have hkeyword : Stays source bindingKeyword :=
    ((stays_keyword "let").bind fun _ => keeps_pure _ fun _ => id).orElse
      ((stays_keyword "var").bind fun _ => keeps_pure _ fun _ => id)
  have htype : Stays source (do symbol ':'; typeText) := (stays_symbol ':').bind fun _ => stays_typeText
  have hvalue : Stays source (do symbol '='; expression) :=
    (stays_symbol '=').bind fun _ => stays_expression
  exact hkeyword.bind fun _ => stays_name.bind fun _ => htype.optional.bind fun _ =>
    hvalue.optional.bind fun _ => keeps_pure _ fun _ => id

theorem stays_membersWithin {p : Reader Declaration} (hp : Stays source p) (n : Nat) :
    Stays source (membersWithin p n) := by
  induction n with
  | zero => exact keeps_miss fun _ => id
  | succ n ih =>
    intro s hs
    have hend : s.dropWhile isMemberGap <:+ source := (List.dropWhile_suffix isMemberGap).trans hs
    simp only [membersWithin]
    split
    case h_1 r hr => exact suffix_of_cons (hr ▸ hend)
    case h_2 =>
      have hrest : Stays source (do
          let member ← p
          let more ← membersWithin p n
          return member :: more : Reader (List Declaration)) :=
        hp.bind fun _ => ih.bind fun _ => keeps_pure _ fun _ => id
      exact hrest hend

theorem stays_declarationShape {p : Reader Declaration} (hp : Stays source p) :
    Stays source (declarationShape p) := by
  have hmembers : Stays source (memberBlock p) :=
    (stays_symbol '{').bind fun _ s hs => stays_membersWithin hp (s.length + 1) hs
  refine (Keeps.many (fun _ => id) stays_mark).bind fun attributes =>
    (Keeps.many (fun _ => id) stays_modifier).bind fun modifiers => stays_bodyKind.optional.bind fun kind => ?_
  cases kind with
  | some kind =>
    exact stays_name.bind fun _ => hmembers.bind fun _ => keeps_pure _ fun _ => id
  | none => exact stays_binding attributes modifiers

theorem stays_declarationWithin (levels : Nat) : Stays source (declarationWithin levels) := by
  induction levels with
  | zero => exact keeps_miss fun _ => id
  | succ levels ih => exact stays_declarationShape ih

theorem stays_declaration : Stays source declaration := fun s hs =>
  stays_declarationWithin (s.length + 1) hs

end Declarations

section Whole

variable {p : Reader α}

theorem stays_finish : Stays source finish := by
  intro s hs
  cases s <;> exact hs

theorem stays_whole (hp : Stays source p) : Stays source (whole p) :=
  hp.bind fun _ => (stays_skip isGap).bind fun _ => stays_finish.bind fun _ => keeps_pure _ fun _ => id

end Whole

end Reader

/-- Behind its first `k` bytes the text goes on with `rest`. -/
def Text.StandsAt (k : Nat) (rest s : List Char) : Prop := ∃ before, s = before ++ rest ∧ k = byteSize before

theorem Text.byteSize_toList (s : String) : byteSize s.toList = s.utf8ByteSize := by
  obtain ⟨cs, rfl⟩ : ∃ cs, s = String.ofList cs := ⟨s.toList, String.ofList_toList.symm⟩
  rw [String.toList_ofList]
  induction cs with
  | nil => rfl
  | cons c cs ih =>
    rw [byteSize_cons, ih, ← List.singleton_append, String.ofList_append, String.utf8ByteSize_append]
    simp

namespace Reader

theorem offset_append (before place : List Char) : offset (before ++ place) place = byteSize before := by
  rw [offset, byteSize_append, Nat.add_sub_cancel]

/-- The place of failure is reported by where it stands. -/
theorem standsAt_offset {source place : List Char} (h : place <:+ source) :
    StandsAt (offset source place) place source := by
  obtain ⟨before, rfl⟩ := h
  exact ⟨before, rfl, offset_append before place⟩

/-- A text that does not nest too deeply is refused at one of its ends. -/
theorem read_eq_error {α : Type} {p : Reader α} {source : String} {error : SyntaxError}
    (hp : Stays source.toList p) (hshallow : tooDeepAt limit [] source.toList = none)
    (h : read p source = .error error) :
    ∃ place, place <:+ source.toList ∧ error = .unreadable (failure source.toList place) := by
  have hwhole := stays_whole hp (List.suffix_refl source.toList)
  unfold read at h
  rw [hshallow] at h
  cases hread : whole p source.toList with
  | done a r => simp [hread] at h
  | miss place =>
    rw [hread] at h hwhole
    exact ⟨place, hwhole, (Except.error.inj h).symm⟩
  | halt place =>
    rw [hread] at h hwhole
    exact ⟨place, hwhole, (Except.error.inj h).symm⟩

end Reader

theorem UnreadableCause.reason_ne {cause : UnreadableCause} (h : ∀ reason, cause ≠ .stated reason) :
    cause.reason ≠ "unexpected end of input" := by
  rw [Ne, ← String.toList_inj]
  cases cause with
  | endOfInput k => simp [reason_endOfInput]
  | unexpected k near => simp [reason_unexpected]
  | tooDeep k => simp [reason_tooDeep]
  | stated reason => exact absurd rfl (h reason)

theorem Reader.failure_ne_stated (source place : List Char) (reason : String) :
    failure source place ≠ .stated reason := by cases place <;> simp [failure]

theorem Reader.exists_cause {α : Type} {p : Reader α} {source : String} {error : SyntaxError}
    (h : read p source = .error error) :
    ∃ cause, error = .unreadable cause ∧ ∀ reason, cause ≠ .stated reason := by
  unfold read at h
  split at h
  · exact ⟨_, (Except.error.inj h).symm, by simp⟩
  · split at h
    · cases h
    · exact ⟨_, (Except.error.inj h).symm, failure_ne_stated _ _⟩
    · exact ⟨_, (Except.error.inj h).symm, failure_ne_stated _ _⟩

theorem Reader.message_ne {α : Type} {p : Reader α} {source : String} {error : SyntaxError}
    (h : read p source = .error error) : error.message ≠ "parse error: unexpected end of input" := by
  obtain ⟨cause, rfl, hcause⟩ := exists_cause h
  intro hmessage
  rw [SyntaxError.message_unreadable, ← String.toList_inj, String.toList_append] at hmessage
  exact UnreadableCause.reason_ne hcause (String.toList_inj.1 (by simpa using hmessage))

theorem Reader.failure_cons (source rest : List Char) (c : Char) : failure source (c :: rest) =
    .unexpected (offset source (c :: rest)) (String.ofList ((c :: rest).take 24)) := rfl

theorem Reader.failure_placed {source : String} {place : List Char} (h : place <:+ source.toList) :
    ∃ before rest : String, source = before ++ rest ∧ rest.toList = place ∧
      offset source.toList place + rest.utf8ByteSize = source.utf8ByteSize ∧
      (rest = "" ∧ failure source.toList place = .endOfInput source.utf8ByteSize ∨
        before.utf8ByteSize < source.utf8ByteSize ∧ failure source.toList place =
          .unexpected before.utf8ByteSize (String.ofList (rest.toList.take 24))) := by
  obtain ⟨before, hsource, hoffset⟩ := standsAt_offset h
  have hparts : source = String.ofList before ++ String.ofList place := by
    rw [← String.ofList_append, ← hsource, String.ofList_toList]
  have hbefore : byteSize before = (String.ofList before).utf8ByteSize := by
    rw [← byteSize_toList, String.toList_ofList]
  have hsize : source.utf8ByteSize = byteSize before + (String.ofList place).utf8ByteSize := by
    rw [hbefore, ← String.utf8ByteSize_append, ← hparts]
  refine ⟨String.ofList before, String.ofList place, hparts, String.toList_ofList, ?_, ?_⟩
  · rw [hoffset, hsize]
  cases place with
  | nil => exact .inl ⟨rfl, by rw [failure, hoffset, hsize]; rfl⟩
  | cons c rest =>
    have hpositive : 0 < (String.ofList (c :: rest)).utf8ByteSize := by
      rw [← byteSize_toList, String.toList_ofList, byteSize_cons]
      exact Nat.add_pos_left c.utf8Size_pos _
    refine .inr ⟨by omega, ?_⟩
    rw [failure_cons, hoffset, hbefore, String.toList_ofList]

/-- A text that does not nest too deeply and is refused is refused at one of its ends: the offset counts the
bytes before it, and its first characters are shown. -/
theorem parse_error_placed (source : String) (error : SyntaxError)
    (h : Expression.parse source = .error error ∨ Invocation.parse source = .error error ∨
      Declaration.parse source = .error error) :
    error.message ≠ "parse error: unexpected end of input" ∧
    (tooDeepAt limit [] source.toList = none → ∃ before rest : String, source = before ++ rest ∧
      error = .unreadable (failure source.toList rest.toList) ∧
      offset source.toList rest.toList + rest.utf8ByteSize = source.utf8ByteSize ∧
      (rest = "" ∧ error.message =
          "parse error: unexpected end of input at offset " ++ toString source.utf8ByteSize ∨
        before.utf8ByteSize < source.utf8ByteSize ∧ error.message =
          "parse error: unexpected input at offset " ++ toString before.utf8ByteSize ++ " near `" ++
            String.ofList (rest.toList.take 24) ++ "`")) := by
  refine ⟨?_, fun hshallow => ?_⟩
  · rcases h with h | h | h <;> exact message_ne h
  obtain ⟨place, hplace, rfl⟩ : ∃ place, place <:+ source.toList ∧
      error = .unreadable (failure source.toList place) := by
    rcases h with h | h | h
    · exact read_eq_error stays_expression hshallow h
    · exact read_eq_error stays_invocation hshallow h
    · exact read_eq_error stays_declaration hshallow h
  obtain ⟨before, rest, hsource, rfl, hoffset, hfailure⟩ := failure_placed hplace
  refine ⟨before, rest, hsource, rfl, hoffset, ?_⟩
  rw [SyntaxError.message_unreadable]
  rcases hfailure with ⟨hrest, hfailure⟩ | ⟨hlt, hfailure⟩
  · exact .inl ⟨hrest, by rw [hfailure, UnreadableCause.reason_endOfInput, ← String.append_assoc]; rfl⟩
  · refine .inr ⟨hlt, ?_⟩
    rw [hfailure, UnreadableCause.reason_unexpected]
    simp only [← String.append_assoc]
    rfl

/-- A name in another script, which takes two bytes, and a second one behind a comma. -/
theorem parse_error_placed_comma :
    Expression.parse "é, b" = .error (.unreadable (.unexpected 2 ", b")) ∧
    SyntaxError.message (.unreadable (.unexpected 2 ", b")) ≠ "parse error: unexpected end of input" ∧
    tooDeepAt limit [] "é, b".toList = none ∧ ∃ before rest : String, "é, b" = before ++ rest ∧
      offset "é, b".toList rest.toList + rest.utf8ByteSize = "é, b".utf8ByteSize ∧
      (rest = "" ∧ SyntaxError.message (.unreadable (.unexpected 2 ", b")) =
          "parse error: unexpected end of input at offset " ++ toString "é, b".utf8ByteSize ∨
        before.utf8ByteSize < "é, b".utf8ByteSize ∧
          SyntaxError.message (.unreadable (.unexpected 2 ", b")) =
            "parse error: unexpected input at offset " ++ toString before.utf8ByteSize ++ " near `" ++
              String.ofList (rest.toList.take 24) ++ "`") := by
  have hparse : Expression.parse "é, b" = .error (.unreadable (.unexpected 2 ", b")) := by decide +kernel
  have hshallow : tooDeepAt limit [] "é, b".toList = none := by decide +kernel
  obtain ⟨hmessage, hplaced⟩ := parse_error_placed "é, b" _ (.inl hparse)
  obtain ⟨before, rest, hsource, -, hoffset, hcases⟩ := hplaced hshallow
  exact ⟨hparse, hmessage, hshallow, before, rest, hsource, hoffset, hcases⟩

end SourceMacros

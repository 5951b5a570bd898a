import SourceMacros.Proofs.Declaration.Taking
import SourceMacros.Proofs.Reader.Progress

/-! The loops of the readers, round by round. Each round takes a character at least, so that there are no more
rounds than characters, on whatever text; and no bound on the recursion matters that the text is shorter than:
`progress`. -/

namespace SourceMacros

/-- Where reading comes to, whatever is found. -/
def Outcome.place {α : Type} : Outcome α → Outcome Unit
  | .done _ r => .done () r
  | .miss r => .miss r
  | .halt r => .halt r

namespace Reader

open Text Nesting

variable {α : Type}

/-- With more levels than the text is long the reader does what it does without a bound. -/
def Settles (p : Nat → Reader α) (q : Reader α) : Prop := ∀ levels s, s.length < levels → p levels s = q s

section Rounds

/-- What a round of a loop comes to: another round on what is left, or the end of the loop. -/
inductive Turn where
  | again (rest : List Char)
  | stop (outcome : Outcome Unit)
  deriving DecidableEq

def Turn.outcome (loop : List Char → Outcome Unit) : Turn → Outcome Unit
  | again rest => loop rest
  | stop outcome => outcome

def tryTurn (p : Reader α) (s : List Char) : Turn :=
  match p s with
  | .done _ r => .again r
  | .miss _ => .stop (.done () s)
  | .halt r => .stop (.halt r)

def needTurn (p : Reader α) (s : List Char) : Turn :=
  match p s with
  | .done _ r => .again r
  | .miss r => .stop (.miss r)
  | .halt r => .stop (.halt r)

def gapChar : Reader Unit
  | [] => .miss []
  | c :: r => if isGap c then .done () r else .miss (c :: r)

/-- A semicolon with the gap before it, or a character of a gap. -/
def memberGapPart : Reader Unit := symbol ';' <|> gapChar

def interpolation : Reader Unit := do
  let _ ← expression
  symbol ')'

def segmentTurn : List Char → Turn
  | [] => .stop (.halt [])
  | '"' :: r => .stop (.done () r)
  | '\n' :: r => .stop (.halt ('\n' :: r))
  | '\\' :: '(' :: r => needTurn interpolation r
  | '\\' :: _ :: r => .again r
  | _ :: r => .again r

def memberTurn (s : List Char) : Turn :=
  match s.dropWhile isMemberGap with
  | '}' :: r => .stop (.done () r)
  | r => needTurn declaration r

/-- The loops of the readers. Those of the lists with separators are entered behind the first item, that of a
string behind its quote and that of members behind the brace. -/
inductive Loop where
  | marks
  | modifiers
  | memberGaps
  | arguments
  | entries
  | segments
  | members

namespace Loop

def turn : Loop → List Char → Turn
  | marks => tryTurn mark
  | modifiers => tryTurn modifier
  | memberGaps => tryTurn memberGapPart
  | arguments => tryTurn (do symbol ','; argument expression)
  | entries => tryTurn (do symbol ','; entry expression)
  | segments => segmentTurn
  | members => memberTurn

/-- Where the loop comes to. -/
def run : Loop → List Char → Outcome Unit
  | marks, s => (many mark s).place
  | modifiers, s => (many modifier s).place
  | memberGaps, s => (many memberGapPart s).place
  | arguments, s => (many (do symbol ','; argument expression) s).place
  | entries, s => (many (do symbol ','; entry expression) s).place
  | segments, s => (Reader.segments expression s).place
  | members, s => (Reader.members declaration s).place

/-- What is read before the loop is entered. -/
def lead? : Loop → Option (Reader Unit)
  | marks | modifiers | memberGaps => none
  | arguments => some (do let _ ← argument expression)
  | entries => some (do let _ ← entry expression)
  | segments => some (char '"')
  | members => some (symbol '{')

/-- As many rounds lead from one text to another. -/
inductive Rounds (l : Loop) : Nat → List Char → List Char → Prop
  | none (s : List Char) : Rounds l 0 s s
  | again {n : Nat} {s r t : List Char} (h : l.turn s = .again r) (hrest : Rounds l n r t) : Rounds l (n + 1) s t

end Loop

end Rounds

section Turns

variable {p : Reader α} {s r : List Char}

theorem tryTurn_eq_again : tryTurn p s = .again r ↔ ∃ a, p s = .done a r := by
  unfold tryTurn
  cases p s <;> simp

theorem needTurn_eq_again : needTurn p s = .again r ↔ ∃ a, p s = .done a r := by
  unfold needTurn
  cases p s <;> simp

/-- Where a list of things comes to, one by one, as each of them takes a character at least. -/
theorem place_many (hp : Consumes p) (s : List Char) :
    (many p s).place = (tryTurn p s).outcome fun r => (many p r).place := by
  rw [many_eq, tryTurn]
  cases hps : p s with
  | done a r =>
    simp only [hp s a r hps, if_true, Turn.outcome]
    cases many p r <;> rfl
  | miss r => rfl
  | halt r => rfl

theorem place_bind {β : Type} {f : α → Reader β} (s : List Char) :
    ((p >>= f) s).place = match p s with
      | .done a r => (f a r).place
      | .miss r => .miss r
      | .halt r => .halt r := by
  rw [bind_apply]
  cases p s <;> rfl

end Turns

section Literals

/-- Where the rest of a literal comes to from what ends a stretch of its text. -/
def afterText : List Char → Outcome Unit
  | '"' :: r => .done () r
  | '\\' :: '(' :: r => (needTurn interpolation r).outcome fun t => (segments expression t).place
  | r => .halt r

theorem place_segments (s : List Char) : (segments expression s).place = afterText (literalText s).2 := by
  unfold afterText
  split
  case h_1 r hr =>
    rw [segments_of_quote _ hr]
    rfl
  case h_2 r hr =>
    rw [segments_of_interpolation shrinks_expression hr, place_bind, needTurn, interpolation, bind_apply]
    cases expression r with
    | done e t =>
      simp only [bind_apply]
      cases symbol ')' t with
      | done a u =>
        simp only [pure_apply, Turn.outcome]
        cases segments expression u <;> rfl
      | miss u => rfl
      | halt u => rfl
    | miss t => rfl
    | halt t => rfl
  case h_3 r hquote hinterpolation =>
    have hends : ∀ n, segmentsWithin expression (n + 1) s = .halt (literalText s).2 := by
      intro n
      simp only [segmentsWithin]
    rw [segments, hends]
    rfl

theorem place_segments_eq (s : List Char) :
    (segments expression s).place = (segmentTurn s).outcome fun r => (segments expression r).place := by
  -- The reader takes a stretch of text at once, of which a round takes one character: the stretch ends alike.
  rw [place_segments]
  unfold segmentTurn
  split
  case h_1 => rfl
  case h_2 r => rfl
  case h_3 r => rfl
  case h_4 r => rfl
  case h_5 c r hc =>
    have htext : (literalText ('\\' :: c :: r)).2 = (literalText r).2 := by
      rw [literalText, if_neg hc]
    rw [htext, Turn.outcome, place_segments]
  case h_6 c r hquote hline hinterpolation hescape =>
    have htext : (literalText (c :: r)).2 = (literalText r).2 := by
      rw [literalText]
      · simp only [decide_eq_false hquote, decide_eq_false hline, Bool.or_self, Bool.false_eq_true, if_false]
      · exact hescape
    rw [htext, Turn.outcome, place_segments]

end Literals

section Members

theorem place_members_eq (s : List Char) :
    (members declaration s).place = (memberTurn s).outcome fun r => (members declaration r).place := by
  unfold memberTurn
  split
  case h_1 r hr =>
    rw [members_of_brace _ hr]
    rfl
  case h_2 r hr =>
    have hbrace : (s.dropWhile isMemberGap).head? ≠ some '}' := by
      intro hhead
      obtain ⟨t, ht⟩ := List.head?_eq_some_iff.1 hhead
      exact hr t ht
    rw [members_of_member consumes_declaration hbrace, place_bind, needTurn]
    cases declaration (s.dropWhile isMemberGap) with
    | done d t =>
      simp only [Turn.outcome, bind_apply]
      cases members declaration t <;> rfl
    | miss t => rfl
    | halt t => rfl

theorem consumes_gapChar : Consumes gapChar := by
  intro s a r h
  cases s with
  | nil => cases h
  | cons c s =>
    simp only [gapChar] at h
    split at h
    · injection h with _ hr
      simp [hr]
    · cases h

theorem consumes_memberGapPart : Consumes memberGapPart := (consumes_symbol ';').orElse consumes_gapChar

theorem stays_memberGapPart (source : List Char) : Stays source memberGapPart := by
  refine (stays_symbol ';').orElse fun s hs => ?_
  cases s with
  | nil => exact hs
  | cons c s =>
    rw [gapChar]
    split
    · exact suffix_of_cons hs
    · exact hs

theorem memberGapPart_cases (s : List Char) :
    (∃ r, memberGapPart s = .done () r ∧ s.dropWhile isMemberGap = r.dropWhile isMemberGap) ∨
      (∃ r, memberGapPart s = .miss r) ∧ s.dropWhile isMemberGap = s := by
  by_cases hsemicolon : (s.dropWhile isGap).head? = some ';'
  · obtain ⟨r, hr⟩ := List.head?_eq_some_iff.1 hsemicolon
    have hdrop : s.dropWhile isGap = (';' :: r).dropWhile isGap := by
      rw [hr, dropWhile_cons_of_neg (by decide)]
    have hskip : (';' :: r).dropWhile isMemberGap = r.dropWhile isMemberGap :=
      List.dropWhile_cons_of_pos (by decide)
    exact .inl ⟨r, orElse_done (symbol_done hr), (memberGap_congr hdrop).trans hskip⟩
  · have hpart : memberGapPart s = gapChar s := orElse_miss (symbol_miss hsemicolon)
    rw [hpart]
    cases s with
    | nil => exact .inr ⟨⟨[], rfl⟩, rfl⟩
    | cons c s =>
      by_cases hc : isGap c = true
      · exact .inl ⟨s, by rw [gapChar, if_pos hc], List.dropWhile_cons_of_pos (isMemberGap_of_isGap hc)⟩
      · have hne : c ≠ ';' := by
          rintro rfl
          exact hsemicolon rfl
        refine .inr ⟨⟨c :: s, by rw [gapChar, if_neg hc]⟩, List.dropWhile_cons_of_neg ?_⟩
        simpa [isMemberGap, hne] using hc

theorem place_memberGaps (s : List Char) :
    (many memberGapPart s).place = .done () (s.dropWhile isMemberGap) := by
  induction hn : s.length using Nat.strongRecOn generalizing s with
  | _ n ih =>
    rw [place_many consumes_memberGapPart, tryTurn]
    rcases memberGapPart_cases s with ⟨r, hr, hdrop⟩ | ⟨⟨r, hr⟩, hdrop⟩
    · have hlt := consumes_memberGapPart s () r hr
      rw [hr, hdrop]
      exact ih r.length (by omega) r rfl
    · rw [hr, hdrop]
      rfl

end Members

section Steps

theorem advances_next {p : Reader α} (hp : Advances p) : Advances (do symbol ','; p) :=
  (advances_symbol ',').bind fun _ => hp

theorem advances_interpolation : Advances interpolation := advances_expression.bind fun _ => advances_symbol ')'

theorem shorter_segmentTurn {s r : List Char} (h : segmentTurn s = .again r) :
    r <:+ s ∧ r.length < s.length := by
  unfold segmentTurn at h
  split at h
  case h_4 t =>
    obtain ⟨a, hread⟩ := needTurn_eq_again.1 h
    obtain ⟨hend, hlt⟩ := advances_interpolation t a r hread
    refine ⟨hend.trans ⟨['\\', '('], rfl⟩, ?_⟩
    rw [List.length_cons, List.length_cons]
    omega
  case h_5 c t hc =>
    cases h
    exact ⟨⟨['\\', c], rfl⟩, by rw [List.length_cons, List.length_cons]; omega⟩
  case h_6 c t _ _ _ _ =>
    cases h
    exact ⟨List.suffix_cons c r, Nat.lt_succ_self _⟩
  all_goals cases h

theorem shorter_memberTurn {s r : List Char} (h : memberTurn s = .again r) : r <:+ s ∧ r.length < s.length := by
  unfold memberTurn at h
  split at h
  case h_1 => cases h
  case h_2 =>
    obtain ⟨d, hread⟩ := needTurn_eq_again.1 h
    obtain ⟨hend, hlt⟩ := advances_declaration _ d r hread
    have hdrop := List.dropWhile_suffix isMemberGap (l := s)
    exact ⟨hend.trans hdrop, lt_of_lt_of_le hlt hdrop.length_le⟩

end Steps

namespace Loop

variable {l : Loop} {n : Nat} {s r t : List Char}

/-- A round of a loop, and then the loop from there on. -/
theorem run_eq (l : Loop) (s : List Char) : l.run s = (l.turn s).outcome l.run := by
  cases l with
  | marks => exact place_many consumes_mark s
  | modifiers => exact place_many consumes_modifier s
  | memberGaps => exact place_many consumes_memberGapPart s
  | arguments => exact place_many (advances_next advances_argument).consumes s
  | entries => exact place_many (advances_next advances_entry).consumes s
  | segments => exact place_segments_eq s
  | members => exact place_members_eq s

/-- A round leaves a shorter end of the text. -/
theorem shorter (h : l.turn s = .again r) : r <:+ s ∧ r.length < s.length := by
  have hitem {α : Type} {p : Reader α} (hp : Advances p) (h : tryTurn p s = .again r) :
      r <:+ s ∧ r.length < s.length := by
    obtain ⟨a, hread⟩ := tryTurn_eq_again.1 h
    exact hp s a r hread
  cases l with
  | marks => exact hitem (consumes_mark.advances fun _ => stays_mark) h
  | modifiers => exact hitem (consumes_modifier.advances fun _ => stays_modifier) h
  | memberGaps => exact hitem (consumes_memberGapPart.advances stays_memberGapPart) h
  | arguments => exact hitem (advances_next advances_argument) h
  | entries => exact hitem (advances_next advances_entry) h
  | segments => exact shorter_segmentTurn h
  | members => exact shorter_memberTurn h

theorem Rounds.suffix (h : l.Rounds n s t) : t <:+ s := by
  induction h with
  | none => exact List.suffix_refl _
  | again hturn _ ih => exact ih.trans (shorter hturn).1

theorem Rounds.length_le (h : l.Rounds n s t) : n + t.length ≤ s.length := by
  induction h with
  | none => omega
  | again hturn _ ih =>
    have hlt := (shorter hturn).2
    omega

theorem Rounds.run_eq (h : l.Rounds n s t) : l.run s = l.run t := by
  induction h with
  | none => rfl
  | again hturn _ ih => rw [Loop.run_eq, hturn, ← ih]; rfl

/-- The rounds of a loop come to an end. -/
theorem exists_stop (l : Loop) (s : List Char) :
    ∃ n t outcome, l.Rounds n s t ∧ l.turn t = .stop outcome ∧ l.run s = outcome := by
  induction hlength : s.length using Nat.strongRecOn generalizing s with
  | _ m ih =>
    have hrun := l.run_eq s
    cases hturn : l.turn s with
    | again r =>
      have hlt := (shorter hturn).2
      obtain ⟨n, t, outcome, hrounds, hstop, hr⟩ := ih r.length (by omega) r rfl
      rw [hturn] at hrun
      exact ⟨n + 1, t, outcome, .again hturn hrounds, hstop, hrun.trans hr⟩
    | stop outcome =>
      rw [hturn] at hrun
      exact ⟨0, s, outcome, .none s, hturn, hrun⟩

theorem Rounds.after_lead {p : Reader Unit} (hp : p ∈ l.lead?) (hread : p s = .done () r)
    (h : l.Rounds n r t) : n + 1 + t.length ≤ s.length := by
  have hlt : r.length < s.length := by
    cases l with
    | marks => cases hp
    | modifiers => cases hp
    | memberGaps => cases hp
    | arguments =>
      obtain rfl := Option.some.inj hp
      exact (consumes_argument consumes_expression).bind (fun _ => shrinks_pure _) s () r hread
    | entries =>
      obtain rfl := Option.some.inj hp
      exact (consumes_entry consumes_expression).bind (fun _ => shrinks_pure _) s () r hread
    | segments =>
      obtain rfl := Option.some.inj hp
      exact length_of_char hread
    | members =>
      obtain rfl := Option.some.inj hp
      exact consumes_symbol '{' s () r hread
  have hle := h.length_le
  omega

end Loop

section Bounds

theorem settles_expression : Settles expressionWithin expression := fun _ _ => expressionWithin_eq

theorem settles_declaration : Settles declarationWithin declaration := fun _ _ => declarationWithin_eq

/-- A reader that is made of steady ones settles as they do. -/
theorem settles_of_steady {β : Type} {p : Nat → Reader α} {q : Reader α} {f : Reader α → Reader β}
    (hp : ∀ levels, Steady levels (p levels) q)
    (hf : ∀ {n} {p q : Reader α}, Steady n p q → Steady n (f p) (f q)) : Settles (fun n => f (p n)) (f q) :=
  fun levels _ hs => (hf (hp levels)).eq hs

theorem steady_levels (levels : Nat) : Steady levels (expressionWithin levels) expression :=
  steady_expressionWithin_expression le_rfl

theorem settles_members : Settles (membersWithin declaration) (members declaration) := by
  intro levels s hs
  have hsteady := consumes_declaration.shrinks.steady (n := s.length + 1)
  exact (hsteady.membersWithin consumes_declaration levels (s.length + 1) hs le_rfl).eq (Nat.lt_succ_self _)

theorem settles_segments : Settles (segmentsWithin expression) (segments expression) := by
  intro levels s hs
  have hsteady := shrinks_expression.steady (n := s.length + 1)
  exact (hsteady.segmentsWithin levels (s.length + 1) hs le_rfl).eq (Nat.lt_succ_self _)

theorem settles_many (p : Reader α) : Settles (manyWithin p) (many p) :=
  fun _ _ hs => manyWithin_eq p hs (Nat.lt_succ_self _)

theorem settles_memberBlock : Settles (fun n => memberBlock (declarationWithin n)) (memberBlock declaration) := by
  intro levels s hs
  have hsteady : Steady levels (declarationWithin levels) declaration :=
    steady_declarationWithin_declaration le_rfl
  have hblock := (shrinks_skip isGap).steady (n := levels + 1) |>.bind fun _ =>
    Steady.afterChar (c := '{') (hsteady.members (consumes_declarationWithin levels))
  exact hblock.eq (hs.trans (Nat.lt_succ_self _))

end Bounds

/-- On every text, malformed ones included, what finds something leaves a shorter end, and each loop ends
after no more rounds than there are characters. So the bounds of the readers make no difference. -/
theorem progress :
    (Advances integer ∧ Advances (stringLiteral expression) ∧ Advances (dictionary expression) ∧
      Advances (callOrIdentifier expression) ∧ Advances verbatim ∧ Advances expression ∧
      Advances (argument expression) ∧ Advances (entry expression) ∧ Advances declaration ∧
      Advances (memberBlock declaration)) ∧
    (∀ s a r, expressionEnd s = .done a r → r = s) ∧
    (∀ (l : Loop) s, l.run s = (l.turn s).outcome l.run) ∧
    (∀ (l : Loop) n s t, l.Rounds n s t → t <:+ s ∧ n + t.length ≤ s.length ∧ l.run s = l.run t) ∧
    (∀ (l : Loop) p n s r t, p ∈ l.lead? → p s = .done () r → l.Rounds n r t → n + 1 + t.length ≤ s.length) ∧
    (∀ (l : Loop) s, ∃ n t outcome, l.Rounds n s t ∧ l.turn t = .stop outcome ∧ l.run s = outcome) ∧
    (∀ s, (many memberGapPart s).place = .done () (s.dropWhile isMemberGap)) ∧
    (∀ s place, many mark s ≠ .miss place ∧ many modifier s ≠ .miss place ∧
      many memberGapPart s ≠ .miss place ∧ many (do symbol ','; argument expression) s ≠ .miss place ∧
      many (do symbol ','; entry expression) s ≠ .miss place) ∧
    (Settles expressionWithin expression ∧
      Settles (fun n => stringLiteral (expressionWithin n)) (stringLiteral expression) ∧
      Settles (fun n => dictionary (expressionWithin n)) (dictionary expression) ∧
      Settles (fun n => callOrIdentifier (expressionWithin n)) (callOrIdentifier expression) ∧
      Settles (fun n => argument (expressionWithin n)) (argument expression) ∧
      Settles (fun n => entry (expressionWithin n)) (entry expression) ∧
      Settles declarationWithin declaration ∧
      Settles (fun n => memberBlock (declarationWithin n)) (memberBlock declaration) ∧
      Settles (segmentsWithin expression) (segments expression) ∧
      Settles (membersWithin declaration) (members declaration) ∧
      ∀ {α : Type} (p : Reader α), Settles (manyWithin p) (many p)) ∧
    (∀ s, expression s = (do gap; expressionShape expression : Reader Expression) s) ∧
    ∀ s, declaration s = declarationShape declaration s := by
  have hstep := stepwise_suffix
  refine ⟨⟨?_, ?_, ?_, ?_, ?_, advances_expression, advances_argument, advances_entry, advances_declaration, ?_⟩,
    fun s a r h => (expressionEnd_eq_done.1 h).2.symm, Loop.run_eq,
    fun l n s t h => ⟨h.suffix, h.length_le, h.run_eq⟩, fun l p n s r t hp hread h => h.after_lead hp hread,
    Loop.exists_stop, place_memberGaps, fun s place => ⟨?_, ?_, ?_, ?_, ?_⟩,
    ⟨settles_expression, ?_, ?_, ?_, ?_, ?_, settles_declaration, settles_memberBlock, settles_segments,
      settles_members, settles_many⟩, expression_eq, declaration_eq⟩
  · exact consumes_integer.advances fun source => (hstep source).keeps_integer (n := 0)
  · exact (consumes_stringLiteral shrinks_expression).advances fun _ => stays_stringLiteral stays_expression
  · exact (consumes_dictionary shrinks_expression).advances fun source =>
      (hstep source).keeps_dictionary (n := 0) stays_expression
  · exact (consumes_callOrIdentifier shrinks_expression).advances fun source =>
      (hstep source).keeps_callOrIdentifier (n := 0) stays_expression
  · exact consumes_verbatim.advances fun _ => stays_verbatim
  · exact consumes_memberBlock.advances stays_memberBlock
  · exact many_ne_miss consumes_mark s place
  · exact many_ne_miss consumes_modifier s place
  · exact many_ne_miss consumes_memberGapPart s place
  · exact many_ne_miss (advances_next advances_argument).consumes s place
  · exact many_ne_miss (advances_next advances_entry).consumes s place
  · exact settles_of_steady steady_levels fun h => h.stringLiteral.mono (Nat.le_succ _)
  · exact settles_of_steady steady_levels fun h => h.dictionary.mono (Nat.le_succ _)
  · exact settles_of_steady steady_levels fun h => h.callOrIdentifier.mono (Nat.le_succ _)
  · exact settles_of_steady steady_levels fun h => h.argument
  · exact settles_of_steady steady_levels fun h => h.entry

/-- A literal of a letter, an escaped quote and an interpolation takes three rounds and the one at its end. What
is left open is seen after no more rounds either. -/
theorem progress_literal :
    Loop.Rounds .segments 3 "a\\\"\\(b)\"".toList "\"".toList ∧
    3 + 1 + "\"".toList.length ≤ "\"a\\\"\\(b)\"".toList.length ∧
    "\"".toList <:+ "a\\\"\\(b)\"".toList ∧ Loop.Rounds .members 1 "; let a \n".toList " \n".toList ∧
    1 + " \n".toList.length ≤ "; let a \n".toList.length ∧
    expressionWithin 9 "f(1, b)".toList = expressionWithin 8 "f(1, b)".toList ∧
    (∀ r, expressionEnd " )".toList = .done () r → r = " )".toList) := by
  obtain ⟨-, hend, -, hrounds, hlead, -, -, -, ⟨hsettles, -⟩, -⟩ := progress
  have hliteral : Loop.Rounds .segments 3 "a\\\"\\(b)\"".toList "\"".toList :=
    .again rfl (.again rfl (.again (by decide +kernel) (.none _)))
  have hmembers : Loop.Rounds .members 1 "; let a \n".toList " \n".toList :=
    .again (by decide +kernel) (.none _)
  refine ⟨hliteral, hlead .segments (char '"') 3 _ _ _ rfl rfl hliteral, (hrounds _ _ _ _ hliteral).1, hmembers,
    (hrounds _ _ _ _ hmembers).2.1, ?_, fun r h => hend _ _ _ h⟩
  exact (hsettles 9 _ (by decide)).trans (hsettles 8 _ (by decide)).symm

end Reader

end SourceMacros

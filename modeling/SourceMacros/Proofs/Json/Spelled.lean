import SourceMacros.Proofs.Json.Tokens

/-! The texts that spell a JSON value, with any blanks between their parts. A value is scanned off each of
them, `look_of_layout`, and the text that is written for it is one, `layout_render`. -/

namespace SourceMacros.Json

def Blanks (s : List Char) : Prop := ∀ c ∈ s, isJsonBlank c = true

def Lead (isFirst : Bool) (g : List Char) : Prop :=
  if isFirst then Blanks g else ∃ b b', Blanks b ∧ Blanks b' ∧ g = b ++ ',' :: b'

section Spelled

mutual

/-- The text spells the value, in which numbers are integers of sixty-four bits. -/
def Spelled : Json → List Char → Prop
  | .null, s => s = "null".toList
  | .bool b, s => s = (if b then "true" else "false").toList
  | .integer n, s => n.natAbs < Nat.pow 2 64 ∧ s = integerWritten n
  | .decimal _, _ => False
  | .string text, s => s = stringWritten text
  | .array items, s => ∃ t, s = '[' :: t ∧ ItemsSpelled true items t
  | .object members, s => ∃ t, s = '{' :: t ∧ MembersSpelled true members t

def ItemsSpelled (isFirst : Bool) : List Json → List Char → Prop
  | [], t => ∃ b, Blanks b ∧ t = b ++ [']']
  | j :: js, t => ∃ g u t', Lead isFirst g ∧ j.Spelled u ∧ ItemsSpelled false js t' ∧
      t = g ++ (u ++ t')

def MembersSpelled (isFirst : Bool) : List (String × Json) → List Char → Prop
  | [], t => ∃ b, Blanks b ∧ t = b ++ ['}']
  | (name, j) :: js, t => ∃ g b b' u t', Lead isFirst g ∧ Blanks b ∧ Blanks b' ∧ j.Spelled u ∧
      MembersSpelled false js t' ∧ t = g ++ (stringWritten name ++ (b ++ ':' :: (b' ++ (u ++ t'))))

end

/-- A text that spells the value, with blanks around it. -/
def Layout (j : Json) (s : List Char) : Prop :=
  ∃ b u b', Blanks b ∧ Blanks b' ∧ j.Spelled u ∧ s = b ++ (u ++ b')

end Spelled

section Blanks

theorem Blanks.nil : Blanks [] := by simp [Blanks]

theorem afterBlanks_append {b : List Char} (hb : Blanks b) (s : List Char) :
    afterBlanks (b ++ s) = afterBlanks s := List.dropWhile_append_of_pos hb

theorem afterBlanks_cons {c : Char} (hc : isJsonBlank c = false) (s : List Char) :
    afterBlanks (c :: s) = c :: s := List.dropWhile_cons_of_neg (by simp [hc])

theorem isJsonBlank_of_isDigit {c : Char} (hc : c.isDigit = true) : isJsonBlank c = false := by
  by_contra hblank
  simp only [isJsonBlank, Bool.not_eq_false, Bool.or_eq_true, beq_iff_eq] at hblank
  rcases hblank with ((rfl | rfl) | rfl) | rfl <;> exact absurd hc (by decide)

end Blanks

structure Begins (c : Char) : Prop where
  blank : isJsonBlank c = false
  item : c ≠ ']'
  member : c ≠ '}'

theorem begins_quote : Begins '"' := ⟨by decide, by decide, by decide⟩

theorem begins_integer (n : Int) : ∃ c t, integerWritten n = c :: t ∧ (c = '-' ∨ c.isDigit = true) := by
  cases n with
  | ofNat n =>
    obtain ⟨c, t, hdigits⟩ := List.exists_cons_of_ne_nil (Nat.toDigits_ne_nil (b := 10) (n := n))
    refine ⟨c, t, hdigits, .inr (Nat.isDigit_of_mem_toDigits (b := 10) (n := n) (by decide) (by decide) ?_)⟩
    simp [hdigits]
  | negSucc n => exact ⟨'-', _, rfl, .inl rfl⟩

theorem begins_of_isDigit {c : Char} (hc : c.isDigit = true) : Begins c := by
  refine ⟨isJsonBlank_of_isDigit hc, ?_, ?_⟩ <;>
    (rintro rfl; exact absurd hc (by decide))

theorem Spelled.begins {j : Json} {u : List Char} (h : j.Spelled u) : ∃ c t, u = c :: t ∧ Begins c := by
  have hletter : ∀ c ∈ ['n', 't', 'f', '[', '{', '-'], Begins c := by
    intro c hc
    simp only [List.mem_cons, List.not_mem_nil, or_false] at hc
    rcases hc with rfl | rfl | rfl | rfl | rfl | rfl <;> exact ⟨by decide, by decide, by decide⟩
  cases j with
  | null =>
    obtain rfl : u = _ := h
    exact ⟨'n', _, rfl, hletter _ (by simp)⟩
  | bool b =>
    obtain rfl : u = _ := h
    cases b with
    | true => exact ⟨'t', _, rfl, hletter _ (by simp)⟩
    | false => exact ⟨'f', _, rfl, hletter _ (by simp)⟩
  | integer n =>
    obtain ⟨-, rfl⟩ := h
    obtain ⟨c, t, hn, rfl | hdigit⟩ := begins_integer n
    · exact ⟨'-', t, hn, hletter _ (by simp)⟩
    · exact ⟨c, t, hn, begins_of_isDigit hdigit⟩
  | decimal text => exact h.elim
  | string text =>
    obtain rfl : u = _ := h
    exact ⟨'"', _, rfl, begins_quote⟩
  | array items =>
    obtain ⟨t, rfl, -⟩ := h
    exact ⟨'[', t, rfl, hletter _ (by simp)⟩
  | object members =>
    obtain ⟨t, rfl, -⟩ := h
    exact ⟨'{', t, rfl, hletter _ (by simp)⟩

section Parts

variable {closing : Char} {g b s : List Char}

theorem nextPart_stop (isFirst : Bool) (hclosing : isJsonBlank closing = false) (hb : Blanks b) :
    nextPart closing isFirst (b ++ closing :: s) = .stop .closed (some s) := by
  rw [nextPart, afterBlanks_append hb, afterBlanks_cons hclosing]
  simp

theorem nextPart_part {isFirst : Bool} {c : Char} (hclosing : closing ≠ ',') (hg : Lead isFirst g)
    (hc : isJsonBlank c = false) (hne : c ≠ closing) :
    nextPart closing isFirst (g ++ c :: s) = .part (c :: s) := by
  cases isFirst with
  | true =>
    rw [nextPart, afterBlanks_append (show Blanks g from hg), afterBlanks_cons hc]
    simp [hne]
  | false =>
    obtain ⟨b, b', hb, hb', rfl⟩ := hg
    rw [nextPart, List.append_assoc, afterBlanks_append hb, List.cons_append,
      afterBlanks_cons (by decide)]
    simp only [if_neg hclosing.symm, Bool.false_eq_true, if_false, if_true, afterBlanks_append hb',
      afterBlanks_cons hc, if_neg hne]

end Parts

section Ends

theorem EndsNumber.cons {c : Char} (hc : c.isDigit = false ∧ c ≠ '.' ∧ c ≠ 'e' ∧ c ≠ 'E') (s : List Char) :
    EndsNumber (c :: s) := by
  intro d hd
  rwa [← Option.some.inj hd]

theorem EndsNumber.blanks {b s : List Char} (hb : Blanks b) (hs : EndsNumber s) : EndsNumber (b ++ s) := by
  cases b with
  | nil => exact hs
  | cons c b =>
    have hc : isJsonBlank c = true := hb c (by simp)
    refine EndsNumber.cons ?_ _
    simp only [isJsonBlank, Bool.or_eq_true, beq_iff_eq] at hc
    rcases hc with ((rfl | rfl) | rfl) | rfl <;> decide

theorem endsNumber_lead {g : List Char} (hg : Lead false g) (s : List Char) : EndsNumber (g ++ s) := by
  obtain ⟨b, b', hb, -, rfl⟩ := hg
  rw [List.append_assoc]
  exact EndsNumber.blanks hb (EndsNumber.cons (by decide) _)

theorem ItemsSpelled.endsNumber {js : List Json} {t : List Char} (h : ItemsSpelled false js t)
    (rest : List Char) : EndsNumber (t ++ rest) := by
  cases js with
  | nil =>
    obtain ⟨b, hb, rfl⟩ := h
    rw [List.append_assoc]
    exact EndsNumber.blanks hb (EndsNumber.cons (by decide) _)
  | cons j js =>
    obtain ⟨g, u, t', hg, -, -, rfl⟩ := h
    rw [List.append_assoc]
    exact endsNumber_lead hg _

theorem MembersSpelled.endsNumber {js : List (String × Json)} {t : List Char}
    (h : MembersSpelled false js t) (rest : List Char) : EndsNumber (t ++ rest) := by
  cases js with
  | nil =>
    obtain ⟨b, hb, rfl⟩ := h
    rw [List.append_assoc]
    exact EndsNumber.blanks hb (EndsNumber.cons (by decide) _)
  | cons member js =>
    obtain ⟨g, b, b', u, t', hg, -, -, -, -, rfl⟩ := h
    rw [List.append_assoc]
    exact endsNumber_lead hg _

theorem Spelled.length_pos {j : Json} {u : List Char} (h : j.Spelled u) : 0 < u.length := by
  obtain ⟨c, t, rfl, -⟩ := h.begins
  simp

theorem ItemsSpelled.length_pos {isFirst : Bool} {js : List Json} {t : List Char}
    (h : ItemsSpelled isFirst js t) : 0 < t.length := by
  cases js with
  | nil =>
    obtain ⟨b, -, rfl⟩ := h
    simp
  | cons j js =>
    obtain ⟨g, u, t', -, hu, -, rfl⟩ := h
    have hlength := hu.length_pos
    rw [List.length_append, List.length_append]
    omega

theorem MembersSpelled.length_pos {isFirst : Bool} {js : List (String × Json)} {t : List Char}
    (h : MembersSpelled isFirst js t) : 0 < t.length := by
  cases js with
  | nil =>
    obtain ⟨b, -, rfl⟩ := h
    simp
  | cons member js =>
    obtain ⟨g, b, b', u, t', -, -, -, -, -, rfl⟩ := h
    simp only [List.length_append, stringWritten, List.length_cons]
    omega

end Ends

section Scan

theorem scanWord_append (word rest : List Char) (value : Draft) :
    scanWord word value (word ++ rest) = (value, some rest) := by
  simp [scanWord]

theorem scanScalar_integer {n : Int} {rest : List Char} (hn : n.natAbs < Nat.pow 2 64)
    (h : EndsNumber rest) : scanScalar (integerWritten n ++ rest) = (.integer n, some rest) := by
  rw [← scanNumber_written hn h]
  obtain ⟨c, t, hwritten, hc⟩ := begins_integer n
  have hne : ∀ d ∈ ['"', 'n', 't', 'f'], c ≠ d := by
    rintro d hd rfl
    simp only [List.mem_cons, List.not_mem_nil, or_false] at hd
    rcases hd with rfl | rfl | rfl | rfl <;> exact absurd hc (by decide)
  rw [hwritten, List.cons_append, scanScalar]
  · simp [hc]
  all_goals simp [hne]

/-- A value that is no array and no object is scanned off what is written for it. -/
theorem scanScalar_of_spelled {j : Json} {u rest : List Char} (h : j.Spelled u) (hrest : EndsNumber rest)
    (hdepth : j.depth = 0) : scanScalar (u ++ rest) = (j.draft, some rest) := by
  cases j with
  | null =>
    obtain rfl : u = _ := h
    exact scanWord_append "null".toList rest .null
  | bool b =>
    obtain rfl : u = _ := h
    cases b with
    | true => exact scanWord_append "true".toList rest (.bool true)
    | false => exact scanWord_append "false".toList rest (.bool false)
  | integer n =>
    obtain ⟨hn, rfl⟩ := h
    exact scanScalar_integer hn hrest
  | decimal text => exact h.elim
  | string text =>
    obtain rfl : u = _ := h
    rw [stringWritten, List.cons_append, List.append_assoc]
    exact scanStringValue_escaped text rest
  | array items => exact absurd hdepth (Nat.succ_ne_zero _)
  | object members => exact absurd hdepth (Nat.succ_ne_zero _)

theorem scanValue_of_scanScalar {j : Json} {b u rest : List Char} (hb : Blanks b) (h : j.Spelled u)
    (hrest : EndsNumber rest) (hdepth : j.depth = 0) (n : Nat) :
    scanValue (n + 1) (b ++ (u ++ rest)) = (j.draft, some rest) := by
  obtain ⟨c, t, rfl, hc⟩ := h.begins
  have hscan := scanScalar_of_spelled h hrest hdepth
  rw [scanValue, afterBlanks_append hb]
  rw [List.cons_append] at hscan ⊢
  rw [afterBlanks_cons hc.blank]
  split
  case h_1 s hs =>
    rw [hs] at hscan
    exact absurd (congrArg Prod.snd hscan) (by simp [scanScalar])
  case h_2 s hs =>
    rw [hs] at hscan
    exact absurd (congrArg Prod.snd hscan) (by simp [scanScalar])
  case h_3 => exact hscan

mutual

/-- A value is scanned off every text that spells it. -/
theorem scanValue_of_spelled : (j : Json) → {b u rest : List Char} → Blanks b → j.Spelled u →
    EndsNumber rest → {n : Nat} → 2 * u.length < n →
    scanValue n (b ++ (u ++ rest)) = (j.draft, some rest)
  | .null, _, _, _, hb, h, hrest, n + 1, _ => scanValue_of_scanScalar hb h hrest rfl n
  | .bool _, _, _, _, hb, h, hrest, n + 1, _ => scanValue_of_scanScalar hb h hrest rfl n
  | .integer _, _, _, _, hb, h, hrest, n + 1, _ => scanValue_of_scanScalar hb h hrest rfl n
  | .decimal _, _, _, _, _, h, _, _, _ => h.elim
  | .string _, _, _, _, hb, h, hrest, n + 1, _ => scanValue_of_scanScalar hb h hrest rfl n
  | .array items, b, u, rest, hb, ⟨t, hu, ht⟩, _, n + 1, hn => by
    subst hu
    have hitems := scanItems_of_spelled items ht rest (n := n) (by simp at hn; omega)
    rw [scanValue, afterBlanks_append hb, List.cons_append, afterBlanks_cons (by decide)]
    simp only [hitems]
    rfl
  | .object members, b, u, rest, hb, ⟨t, hu, ht⟩, _, n + 1, hn => by
    subst hu
    have hmembers := scanMembers_of_spelled members ht rest (n := n) (by simp at hn; omega)
    rw [scanValue, afterBlanks_append hb, List.cons_append, afterBlanks_cons (by decide)]
    simp only [hmembers]
    rfl

theorem scanItems_of_spelled : (js : List Json) → {isFirst : Bool} → {t : List Char} →
    ItemsSpelled isFirst js t → (rest : List Char) → {n : Nat} → 2 * t.length < n →
    scanItems n isFirst (t ++ rest) = (itemDrafts js, .closed, some rest)
  | [], isFirst, t, ⟨b, hb, ht⟩, rest, n + 1, _ => by
    subst ht
    rw [scanItems, List.append_assoc, List.singleton_append, nextPart_stop _ (by decide) hb]
    rfl
  | j :: js, isFirst, t, ⟨g, u, t', hg, hu, ht', ht⟩, rest, n + 1, hn => by
    subst ht
    obtain ⟨c, v, huv, hc⟩ := hu.begins
    have hpart : nextPart ']' isFirst (g ++ (u ++ (t' ++ rest))) = .part (u ++ (t' ++ rest)) := by
      rw [huv, List.cons_append]
      exact nextPart_part (by decide) hg hc.blank hc.item
    have hlength := hu.length_pos
    have hlength' := ht'.length_pos
    simp only [List.length_append] at hn
    have hvalue := scanValue_of_spelled j Blanks.nil hu (ht'.endsNumber rest) (n := n) (by omega)
    have hrest := scanItems_of_spelled js ht' rest (n := n) (by omega)
    rw [scanItems, List.append_assoc, List.append_assoc, hpart]
    rw [List.nil_append] at hvalue
    simp only [hvalue, hrest]
    rfl

theorem scanMembers_of_spelled : (js : List (String × Json)) → {isFirst : Bool} → {t : List Char} →
    MembersSpelled isFirst js t → (rest : List Char) → {n : Nat} → 2 * t.length < n →
    scanMembers n isFirst (t ++ rest) = (memberDrafts js, .closed, some rest)
  | [], isFirst, t, ⟨b, hb, ht⟩, rest, n + 1, _ => by
    subst ht
    rw [scanMembers, List.append_assoc, List.singleton_append, nextPart_stop _ (by decide) hb]
    rfl
  | (name, j) :: js, isFirst, t, ⟨g, b, b', u, t', hg, hb, hb', hu, ht', ht⟩, rest, n + 1, hn => by
    subst ht
    have hname : stringWritten name ++ (b ++ ':' :: (b' ++ (u ++ t'))) ++ rest =
        '"' :: (name.toList.flatMap escaped ++ '"' :: (b ++ ':' :: (b' ++ (u ++ (t' ++ rest))))) := by
      simp [stringWritten]
    have hpart : nextPart '}' isFirst (g ++ '"' :: (name.toList.flatMap escaped ++
        '"' :: (b ++ ':' :: (b' ++ (u ++ (t' ++ rest)))))) =
        .part ('"' :: (name.toList.flatMap escaped ++ '"' :: (b ++ ':' :: (b' ++ (u ++ (t' ++ rest)))))) :=
      nextPart_part (by decide) hg (by decide) (by decide)
    have hcolon : afterBlanks (b ++ ':' :: (b' ++ (u ++ (t' ++ rest)))) =
        ':' :: (b' ++ (u ++ (t' ++ rest))) := by
      rw [afterBlanks_append hb, afterBlanks_cons (by decide)]
    have hlength := hu.length_pos
    have hlength' := ht'.length_pos
    simp only [List.length_append, List.length_cons] at hn
    have hvalue := scanValue_of_spelled j hb' hu (ht'.endsNumber rest) (n := n) (by omega)
    have hrest := scanMembers_of_spelled js ht' rest (n := n) (by omega)
    rw [scanMembers, List.append_assoc, hname, hpart]
    simp only [stringAt_escaped, hcolon, hvalue, hrest, Option.map_some, String.ofList_toList]
    rfl

end

theorem trailingFault_blanks {b : List Char} (hb : Blanks b) : trailingFault (some b) = .ok () := by
  have hafter := afterBlanks_append hb []
  rw [List.append_nil] at hafter
  rw [trailingFault, hafter]
  rfl

/-- In a text that spells a value, what is looked for is found or not as it is in the value. -/
theorem look_of_layout {α : Type} (decode : Draft → Except Fault α) {j : Json} {text : String}
    (h : j.Layout text.toList) : look decode text = decode j.draft := by
  obtain ⟨b, u, b', hb, hb', hu, htext⟩ := h
  have hends : EndsNumber b' := by
    have hnil : EndsNumber [] := by simp [EndsNumber]
    simpa using EndsNumber.blanks hb' hnil
  have hlength : text.length = b.length + (u.length + b'.length) := by
    rw [← String.length_toList, htext, List.length_append, List.length_append]
  have hscan := scanValue_of_spelled j hb hu hends (n := 2 * text.length + 2) (by omega)
  rw [look, htext, hscan]
  simp only [trailingFault_blanks hb']
  cases decode j.draft <;> rfl

end Scan

section Written

mutual

/-- Its numbers are integers of sixty-four bits. -/
def Small : Json → Prop
  | .integer n => n.natAbs < Nat.pow 2 64
  | .decimal _ => False
  | .array items => ItemsSmall items
  | .object members => MembersSmall members
  | .null | .bool _ | .string _ => True

def ItemsSmall : List Json → Prop
  | [] => True
  | j :: js => j.Small ∧ ItemsSmall js

def MembersSmall : List (String × Json) → Prop
  | [] => True
  | (_, j) :: js => j.Small ∧ MembersSmall js

end

theorem intercalate_cons (u : List Char) (us : List (List Char)) :
    [','].intercalate (u :: us) = u ++ us.flatMap (',' :: ·) := by
  induction us generalizing u with
  | nil => simp [List.intercalate]
  | cons v us ih => rw [List.intercalate_cons_cons, ih]; simp

theorem lead_comma : Lead false [','] := ⟨[], [], Blanks.nil, Blanks.nil, rfl⟩

mutual

theorem spelled_written : (j : Json) → j.Small → j.Spelled j.written
  | .null, _ => rfl
  | .bool true, _ => rfl
  | .bool false, _ => rfl
  | .integer _, h => ⟨h, rfl⟩
  | .decimal _, h => h
  | .string _, _ => rfl
  | .array [], _ => ⟨_, rfl, [], Blanks.nil, rfl⟩
  | .array (j :: js), ⟨hj, hjs⟩ =>
    ⟨_, rfl, [], j.written, _, Blanks.nil, spelled_written j hj, itemsSpelled_written js hjs, by
      simp [itemsWritten, intercalate_cons]⟩
  | .object [], _ => ⟨_, rfl, [], Blanks.nil, rfl⟩
  | .object ((_, j) :: js), ⟨hj, hjs⟩ =>
    ⟨_, rfl, [], [], [], j.written, _, Blanks.nil, Blanks.nil, Blanks.nil, spelled_written j hj,
      membersSpelled_written js hjs, by simp [membersWritten, intercalate_cons]⟩

theorem itemsSpelled_written : (js : List Json) → ItemsSmall js →
    ItemsSpelled false js ((itemsWritten js).flatMap (',' :: ·) ++ [']'])
  | [], _ => ⟨[], Blanks.nil, rfl⟩
  | j :: js, ⟨hj, hjs⟩ =>
    ⟨[','], j.written, _, lead_comma, spelled_written j hj, itemsSpelled_written js hjs, by
      simp [itemsWritten]⟩

theorem membersSpelled_written : (js : List (String × Json)) → MembersSmall js →
    MembersSpelled false js ((membersWritten js).flatMap (',' :: ·) ++ ['}'])
  | [], _ => ⟨[], Blanks.nil, rfl⟩
  | (_, j) :: js, ⟨hj, hjs⟩ =>
    ⟨[','], [], [], j.written, _, lead_comma, Blanks.nil, Blanks.nil, spelled_written j hj,
      membersSpelled_written js hjs, by simp [membersWritten]⟩

end

theorem layout_render {j : Json} (h : j.Small) : j.Layout j.render.toList := by
  refine ⟨[], j.written, [], Blanks.nil, Blanks.nil, spelled_written j h, ?_⟩
  simp [render]

end Written

end SourceMacros.Json

import SourceMacros.Expression.Printer
import SourceMacros.Proofs.Reader.Laws
import SourceMacros.Reader.Source

/-! The texts that spell an expression in front of what follows: its parts in order, with gaps between
them where the source may have gaps. The verbatim parts are spelled as a relation of one's own says.
The text that is written for an expression of the right shape spells it, `Expression.spelled_written`. -/

namespace SourceMacros

open Text Reader

/-- A sign at most, a digit, then letters, digits and underscores. -/
def Reader.isIntegerText (text : List Char) : Bool :=
  match splitSign text with
  | (_, c :: r) => c.isDigit && r.all continuesIdentifier
  | (_, []) => false

theorem Reader.exists_digits {text : List Char} (h : isIntegerText text = true) :
    ∃ sign d r, text = sign ++ d :: r ∧ (sign = [] ∨ sign = ['-']) ∧ d.isDigit = true ∧
      ∀ k ∈ r, continuesIdentifier k = true := by
  unfold isIntegerText at h
  split at h
  case h_1 sign d r hsplit =>
    simp only [Bool.and_eq_true, List.all_eq_true] at h
    unfold splitSign at hsplit
    split at hsplit
    case h_1 t =>
      obtain ⟨rfl, rfl⟩ := Prod.mk.inj hsplit
      exact ⟨['-'], d, r, rfl, .inr rfl, h⟩
    case h_2 =>
      obtain ⟨rfl, rfl⟩ := Prod.mk.inj hsplit
      exact ⟨[], d, r, rfl, .inl rfl, h⟩
  case h_2 => cases h

theorem Reader.eq_or_continues_of_mem {text : List Char} (h : isIntegerText text = true) {k : Char}
    (hk : k ∈ text) : k = '-' ∨ continuesIdentifier k = true := by
  obtain ⟨sign, d, r, rfl, hsign, hd, hr⟩ := exists_digits h
  have hdigit : continuesIdentifier d = true := by simp [continuesIdentifier, Char.isAlphanum, hd]
  rcases List.mem_append.1 hk with hk | hk
  · rcases hsign with rfl | rfl
    · cases hk
    · exact .inl (List.mem_singleton.1 hk)
  · rcases List.mem_cons.1 hk with rfl | hk
    · exact .inr hdigit
    · exact .inr (hr k hk)

/-- Characters that stand for themselves within a literal, and escapes that open no interpolation. -/
def Reader.isLiteralText : List Char → Bool
  | [] => true
  | '\\' :: c :: r => c != '(' && isLiteralText r
  | c :: r => c != '"' && c != '\\' && c != '\n' && isLiteralText r

def Segment.isText : Segment → Bool
  | .text _ => true
  | .interpolation _ => false

mutual

/-- Integers and names are such texts, the text of a literal stands in one piece between its
interpolations, calls are calls of a name, and the verbatim texts are as `verbatim` says. -/
def Expression.Shaped (verbatim : String → Prop) : Expression → Prop
  | .integer text => isIntegerText text.toList = true
  | .string segments => SegmentsShaped verbatim segments
  | .dictionary entries => EntriesShaped verbatim entries
  | .identifier name => isIdentifier name = true
  | .call callee arguments =>
    (∃ name, callee = .identifier name ∧ isIdentifier name = true) ∧
      ArgumentsShaped verbatim arguments
  | .other text => verbatim text

def SegmentsShaped (verbatim : String → Prop) : List Segment → Prop
  | [] => True
  | .text value :: segments =>
    (value.toList ≠ [] ∧ isLiteralText value.toList = true ∧
      ∀ s ∈ segments.head?, s.isText = false) ∧ SegmentsShaped verbatim segments
  | .interpolation value :: segments => value.Shaped verbatim ∧ SegmentsShaped verbatim segments

def EntriesShaped (verbatim : String → Prop) : List Entry → Prop
  | [] => True
  | ⟨key, value⟩ :: entries =>
    key.Shaped verbatim ∧ value.Shaped verbatim ∧ EntriesShaped verbatim entries

def ArgumentsShaped (verbatim : String → Prop) : List Argument → Prop
  | [] => True
  | ⟨label, value⟩ :: arguments =>
    (∀ name ∈ label, isIdentifier name = true) ∧ value.Shaped verbatim ∧
      ArgumentsShaped verbatim arguments

end

/-- The end of a list: a gap, a comma if one likes, and the closing bracket. -/
def Closing (bracket : Char) (s : List Char) : Prop :=
  ∃ g, Gap g ∧ (s = g ++ [bracket] ∨ ∃ h, Gap h ∧ s = g ++ ',' :: (h ++ [bracket]))

/-- What follows an item of a list: the end of the list, or a comma and the other items. -/
def Continues {α : Type} (bracket : Char) (items : List α) (spelled : List Char → Prop)
    (t : List Char) : Prop :=
  (items = [] ∧ Closing bracket t) ∨ ∃ g s, Gap g ∧ t = g ++ ',' :: s ∧ spelled s

/-- What stands before the value of an argument. -/
def LabelSpelled : Option String → List Char → Prop
  | none, s => Gap s
  | some name, s => ∃ g h k, Gap g ∧ (∀ c ∈ h, isSpace c = true) ∧ Gap k ∧
      isIdentifier name = true ∧ s = g ++ (name.toList ++ (h ++ ':' :: k))

section Spelling

/- A verbatim text, how it is spelled, and what follows. -/
variable (verbatim : String → List Char → List Char → Prop)

mutual

/-- The text `s` spells the expression in front of `c`. -/
def Expression.Spelled : Expression → List Char → List Char → Prop
  | .integer text, s, _ => s = text.toList ∧ isIntegerText s = true
  | .string segments, s, c => ∃ t, s = '"' :: t ∧ SegmentsSpelled segments t c
  | .dictionary entries, s, c =>
    (entries = [] ∧ ∃ g h, Gap g ∧ Gap h ∧ s = '[' :: (g ++ ':' :: (h ++ [']']))) ∨
      ∃ t, s = '[' :: t ∧ EntriesSpelled entries t c
  | .identifier name, s, _ => s = name.toList ∧ isIdentifier name = true
  | .call callee arguments, s, c =>
    ∃ name t, callee = .identifier name ∧ isIdentifier name = true ∧
      s = name.toList ++ '(' :: t ∧
      ((arguments = [] ∧ Closing ')' t) ∨ ArgumentsSpelled arguments t c)
  | .other text, s, c => verbatim text s c

def SegmentsSpelled : List Segment → List Char → List Char → Prop
  | [], s, _ => s = ['"']
  | .text value :: segments, s, c =>
    (value.toList ≠ [] ∧ isLiteralText value.toList = true ∧
      ∀ s ∈ segments.head?, s.isText = false) ∧
      ∃ t, s = value.toList ++ t ∧ SegmentsSpelled segments t c
  | .interpolation value :: segments, s, c =>
    ∃ g u h t, Gap g ∧ Gap h ∧ s = '\\' :: '(' :: (g ++ (u ++ (h ++ ')' :: t))) ∧
      value.Spelled u (h ++ ')' :: (t ++ c)) ∧ endsExpression (h ++ ')' :: (t ++ c)) = true ∧
      SegmentsSpelled segments t c

def EntriesSpelled : List Entry → List Char → List Char → Prop
  | [], _, _ => False
  | ⟨key, value⟩ :: entries, s, c =>
    ∃ g u h k v t, Gap g ∧ Gap h ∧ Gap k ∧ s = g ++ (u ++ (h ++ ':' :: (k ++ (v ++ t)))) ∧
      key.Spelled u (h ++ ':' :: (k ++ (v ++ (t ++ c)))) ∧
      endsExpression (h ++ ':' :: (k ++ (v ++ (t ++ c)))) = true ∧
      value.Spelled v (t ++ c) ∧ endsExpression (t ++ c) = true ∧
      Continues ']' entries (fun t => EntriesSpelled entries t c) t

def ArgumentsSpelled : List Argument → List Char → List Char → Prop
  | [], _, _ => False
  | ⟨label, value⟩ :: arguments, s, c =>
    ∃ g u t, LabelSpelled label g ∧ s = g ++ (u ++ t) ∧
      value.Spelled u (t ++ c) ∧ endsExpression (t ++ c) = true ∧
      Continues ')' arguments (fun t => ArgumentsSpelled arguments t c) t

end

end Spelling

/-- The items of a list after its first one, as they are written in front of `c`. -/
def othersWritten (texts : List (List Char)) (c : List Char) : List Char :=
  texts.flatMap (fun text => ',' :: ' ' :: text) ++ c

mutual

/-- The verbatim texts in the text that is written in front of `c`, each with what follows it. -/
def Expression.verbatims : Expression → List Char → List (String × List Char)
  | .integer _, _ => []
  | .string segments, c => segmentVerbatims segments ('"' :: c)
  | .dictionary entries, c => entryVerbatims entries (']' :: c)
  | .identifier _, _ => []
  | .call callee arguments, c =>
    callee.verbatims ('(' :: (commaSeparated (argumentsWritten arguments) ++ ')' :: c)) ++
      argumentVerbatims arguments (')' :: c)
  | .other text, c => [(text, c)]

def segmentVerbatims : List Segment → List Char → List (String × List Char)
  | [], _ => []
  | .text _ :: segments, c => segmentVerbatims segments c
  | .interpolation value :: segments, c =>
    value.verbatims (')' :: (segmentsWritten segments ++ c)) ++ segmentVerbatims segments c

def entryVerbatims : List Entry → List Char → List (String × List Char)
  | [], _ => []
  | ⟨key, value⟩ :: entries, c =>
    key.verbatims (':' :: ' ' :: (value.written ++ othersWritten (entriesWritten entries) c)) ++
      value.verbatims (othersWritten (entriesWritten entries) c) ++ entryVerbatims entries c

def argumentVerbatims : List Argument → List Char → List (String × List Char)
  | [], _ => []
  | ⟨_, value⟩ :: arguments, c =>
    value.verbatims (othersWritten (argumentsWritten arguments) c) ++ argumentVerbatims arguments c

end

theorem Expression.written_dictionary {entries : List Entry} (h : entries ≠ []) :
    (Expression.dictionary entries).written =
      '[' :: (commaSeparated (entriesWritten entries) ++ [']']) := by
  cases entries with
  | nil => exact absurd rfl h
  | cons entry entries => rfl

theorem othersWritten_append (texts : List (List Char)) (b c : List Char) :
    othersWritten texts (b ++ c) = othersWritten texts b ++ c := by
  simp [othersWritten]

theorem commaSeparated_cons_append (text : List Char) (texts : List (List Char)) (c : List Char) :
    commaSeparated (text :: texts) ++ c = text ++ othersWritten texts c := by
  induction texts generalizing text with
  | nil => simp [commaSeparated, othersWritten]
  | cons next texts ih =>
    have h := ih next
    rw [othersWritten] at h
    rw [commaSeparated, List.intercalate_cons_of_ne_nil (List.cons_ne_nil next texts)]
    simp only [commaSeparated] at h
    simp [othersWritten, h]

theorem othersWritten_of_ne_nil {texts : List (List Char)} (h : texts ≠ []) (c : List Char) :
    othersWritten texts c = ',' :: ' ' :: (commaSeparated texts ++ c) := by
  cases texts with
  | nil => exact absurd rfl h
  | cons text texts =>
    rw [commaSeparated_cons_append]
    simp [othersWritten]

theorem endsExpression_othersWritten (texts : List (List Char)) {c : List Char}
    (hc : endsExpression c = true) : endsExpression (othersWritten texts c) = true := by
  cases texts with
  | nil => exact hc
  | cons text texts => rfl

theorem entriesWritten_ne_nil {entries : List Entry} (h : entries ≠ []) :
    entriesWritten entries ≠ [] := by
  cases entries with
  | nil => exact absurd rfl h
  | cons entry entries =>
    obtain ⟨key, value⟩ := entry
    simp [entriesWritten]

theorem argumentsWritten_ne_nil {arguments : List Argument} (h : arguments ≠ []) :
    argumentsWritten arguments ≠ [] := by
  cases arguments with
  | nil => exact absurd rfl h
  | cons argument arguments =>
    obtain ⟨label, value⟩ := argument
    cases label <;> simp [argumentsWritten]

def labelWritten : Option String → List Char
  | none => []
  | some label => label.toList ++ [':', ' ']

theorem argumentsWritten_cons (label : Option String) (value : Expression)
    (arguments : List Argument) :
    argumentsWritten (⟨label, value⟩ :: arguments) =
      (labelWritten label ++ value.written) :: argumentsWritten arguments := by
  cases label <;> simp [argumentsWritten, labelWritten]

theorem closing_single (bracket : Char) : Closing bracket [bracket] := ⟨[], Gap.nil, .inl rfl⟩

theorem gap_space : Gap [' '] := by simp [Gap, isGap, isSpace]

theorem labelSpelled_written {label : Option String}
    (h : ∀ name ∈ label, isIdentifier name = true) : LabelSpelled label (labelWritten label) := by
  cases label with
  | none => exact Gap.nil
  | some name =>
    exact ⟨[], [], [' '], Gap.nil, by simp, gap_space, h name rfl, by simp [labelWritten]⟩

theorem LabelSpelled.gap {label : Option String} {g s : List Char} (hg : Gap g)
    (h : LabelSpelled label s) : LabelSpelled label (g ++ s) := by
  cases label with
  | none => exact hg.append h
  | some name =>
    obtain ⟨g', k, l, hg', hk, hl, hname, rfl⟩ := h
    exact ⟨g ++ g', k, l, hg.append hg', hk, hl, hname, by simp⟩

section Written

variable {other : String → Prop} {verbatim : String → List Char → List Char → Prop}

theorem EntriesSpelled.gap {entries : List Entry} {g s c : List Char} (hg : Gap g)
    (h : EntriesSpelled verbatim entries s c) : EntriesSpelled verbatim entries (g ++ s) c := by
  cases entries with
  | nil => exact h
  | cons entry entries =>
    obtain ⟨key, value⟩ := entry
    obtain ⟨g', u, k, l, v, t, hg', hk, hl, rfl, hrest⟩ := h
    exact ⟨g ++ g', u, k, l, v, t, hg.append hg', hk, hl, by simp, hrest⟩

theorem ArgumentsSpelled.gap {arguments : List Argument} {g s c : List Char} (hg : Gap g)
    (h : ArgumentsSpelled verbatim arguments s c) :
    ArgumentsSpelled verbatim arguments (g ++ s) c := by
  cases arguments with
  | nil => exact h
  | cons argument arguments =>
    obtain ⟨label, value⟩ := argument
    obtain ⟨l, u, t, hl, rfl, hrest⟩ := h
    exact ⟨g ++ l, u, t, hl.gap hg, by simp, hrest⟩

mutual

/-- What is written for an expression of the right shape spells it. -/
theorem Expression.spelled_written : (e : Expression) → (c : List Char) → e.Shaped other →
    (∀ p ∈ e.verbatims c, verbatim p.1 p.1.toList p.2) → e.Spelled verbatim e.written c
  | .integer _, _, he, _ => ⟨rfl, he⟩
  | .string segments, c, he, h => by
    refine ⟨_, rfl, segmentsSpelled_written segments c he fun p hp => h p ?_⟩
    simpa [Expression.verbatims] using hp
  | .dictionary entries, c, he, h => by
    by_cases hn : entries = []
    · subst hn
      exact .inl ⟨rfl, [], [], Gap.nil, Gap.nil, rfl⟩
    · exact .inr ⟨_, Expression.written_dictionary hn, entriesSpelled_written entries c hn he h⟩
  | .identifier _, _, he, _ => ⟨rfl, he⟩
  | .call callee arguments, c, he, h => by
    obtain ⟨⟨name, rfl, hname⟩, harguments⟩ := he
    refine ⟨name, _, rfl, hname, rfl, ?_⟩
    by_cases hn : arguments = []
    · subst hn
      exact .inl ⟨rfl, closing_single ')'⟩
    · exact .inr (argumentsSpelled_written arguments c hn harguments h)
  | .other text, c, _, h => h (text, c) (by simp [Expression.verbatims])

theorem segmentsSpelled_written : (segments : List Segment) → (c : List Char) →
    SegmentsShaped other segments →
    (∀ p ∈ segmentVerbatims segments ('"' :: c), verbatim p.1 p.1.toList p.2) →
      SegmentsSpelled verbatim segments (segmentsWritten segments ++ ['"']) c
  | [], _, _, _ => rfl
  | .text value :: segments, c, ⟨hvalue, hsegments⟩, h =>
    ⟨hvalue, _, by simp [segmentsWritten], segmentsSpelled_written segments c hsegments h⟩
  | .interpolation value :: segments, c, ⟨hvalue, hsegments⟩, h => by
    simp only [segmentVerbatims, List.mem_append] at h
    have hv := value.spelled_written _ hvalue fun p hp => h p (.inl hp)
    have hs := segmentsSpelled_written segments c hsegments fun p hp => h p (.inr hp)
    refine ⟨[], value.written, [], segmentsWritten segments ++ ['"'], Gap.nil, Gap.nil,
      by simp [segmentsWritten], ?_, rfl, hs⟩
    simpa using hv

theorem entriesSpelled_written : (entries : List Entry) → (c : List Char) → entries ≠ [] →
    EntriesShaped other entries →
    (∀ p ∈ entryVerbatims entries (']' :: c), verbatim p.1 p.1.toList p.2) →
      EntriesSpelled verbatim entries (commaSeparated (entriesWritten entries) ++ [']']) c
  | [], _, hn, _, _ => absurd rfl hn
  | ⟨key, value⟩ :: entries, c, _, ⟨hkey, hvalue, hentries⟩, h => by
    simp only [entryVerbatims, List.mem_append] at h
    have hk := key.spelled_written _ hkey fun p hp => h p (.inl (.inl hp))
    have hv := value.spelled_written _ hvalue fun p hp => h p (.inl (.inr hp))
    have hrest := othersWritten_append (entriesWritten entries) [']'] c
    have hends := endsExpression_othersWritten (entriesWritten entries) (c := ']' :: c) rfl
    rw [List.singleton_append] at hrest
    rw [hrest] at hk hv hends
    rw [entriesWritten, commaSeparated_cons_append]
    refine ⟨[], _, [], [' '], _, othersWritten (entriesWritten entries) [']'], Gap.nil, Gap.nil,
      gap_space, by simp, hk, rfl, hv, hends, ?_⟩
    by_cases hn : entries = []
    · subst hn
      exact .inl ⟨rfl, closing_single ']'⟩
    · have hs := entriesSpelled_written entries c hn hentries fun p hp => h p (.inr hp)
      exact .inr ⟨[], _, Gap.nil, othersWritten_of_ne_nil (entriesWritten_ne_nil hn) [']'],
        hs.gap gap_space⟩

theorem argumentsSpelled_written : (arguments : List Argument) → (c : List Char) →
    arguments ≠ [] → ArgumentsShaped other arguments →
    (∀ p ∈ argumentVerbatims arguments (')' :: c), verbatim p.1 p.1.toList p.2) →
      ArgumentsSpelled verbatim arguments (commaSeparated (argumentsWritten arguments) ++ [')']) c
  | [], _, hn, _, _ => absurd rfl hn
  | ⟨label, value⟩ :: arguments, c, _, ⟨hlabel, hvalue, harguments⟩, h => by
    simp only [argumentVerbatims, List.mem_append] at h
    have hv := value.spelled_written _ hvalue fun p hp => h p (.inl hp)
    have hl := labelSpelled_written hlabel
    have hrest := othersWritten_append (argumentsWritten arguments) [')'] c
    have hends := endsExpression_othersWritten (argumentsWritten arguments) (c := ')' :: c) rfl
    rw [List.singleton_append] at hrest
    rw [hrest] at hv hends
    rw [argumentsWritten_cons, commaSeparated_cons_append]
    refine ⟨_, _, othersWritten (argumentsWritten arguments) [')'], hl, by simp, hv, hends, ?_⟩
    by_cases hn : arguments = []
    · subst hn
      exact .inl ⟨rfl, closing_single ')'⟩
    · have hs := argumentsSpelled_written arguments c hn harguments fun p hp => h p (.inr hp)
      exact .inr ⟨[], _, Gap.nil, othersWritten_of_ne_nil (argumentsWritten_ne_nil hn) [')'],
        hs.gap gap_space⟩

end

end Written

end SourceMacros

import SourceMacros.Declaration.Printer
import SourceMacros.Proofs.Expression.Spelled
import SourceMacros.Proofs.Text.Trim
import SourceMacros.Reader.Declaration

/-! The texts that spell a declaration in front of what follows, whatever gaps its words and members have
between them. The text that is written for a declaration of the right shape spells it,
`Declaration.spelled_written`. -/

namespace SourceMacros

open Text Reader

/-- Words behind each other, each after a gap and before something that does not go on with it. -/
def WordsSpelled : List (List Char) → List Char → List Char → Prop
  | [], s, _ => s = []
  | word :: words, s, c =>
    ∃ g t, Gap g ∧ s = g ++ (word ++ t) ∧ EndsWord (t ++ c) ∧ WordsSpelled words t c

def leadWords (attributes : List Attribute) (modifiers : List Modifier) : List (List Char) :=
  attributes.map (fun a => '@' :: a.name.toList) ++ modifiers.map (·.keyword.toList)

def Binding.keyword (b : Binding) : String := if b.isConstant then "let" else "var"

/-- The colon and the text of a type, up to the end of the line or to what cannot stand in a type. -/
def TypeSpelled : Option String → List Char → List Char → Prop
  | none, s, _ => s = []
  | some text, s, c =>
    ∃ g h b, Gap g ∧ (∀ k ∈ h, isSpace k = true) ∧ Blank b ∧
      s = g ++ ':' :: (h ++ (text.toList ++ b)) ∧ text.toList ++ b ≠ [] ∧
      (∀ k ∈ text.toList ++ b, inType k = true) ∧
      (∀ k ∈ (text.toList ++ b).head?, isSpace k = false) ∧ Ended text.toList ∧
      ∀ k ∈ c.head?, inType k = false

/-- Blanks, line ends and semicolons between members. -/
def MemberGap (s : List Char) : Prop := ∀ c ∈ s, isMemberGap c = true

section Spelling

/- A verbatim text, how it is spelled, and what follows. -/
variable (verbatim : String → List Char → List Char → Prop)

def InitializerSpelled : Option Expression → List Char → List Char → Prop
  | none, s, _ => s = []
  | some e, s, c =>
    ∃ g h u, Gap g ∧ Gap h ∧ s = g ++ '=' :: (h ++ u) ∧ e.Spelled verbatim u c ∧
      endsExpression c = true

def Binding.Spelled (b : Binding) (s c : List Char) : Prop :=
  ∃ w t i, s = w ++ (t ++ i) ∧
    WordsSpelled (leadWords b.attributes b.modifiers ++ [b.keyword.toList, b.name.toList]) w
      (t ++ (i ++ c)) ∧
    TypeSpelled b.typeText t (i ++ c) ∧ InitializerSpelled verbatim b.initializer i c ∧
    (∀ a ∈ b.attributes, isIdentifier a.name = true) ∧ isIdentifier b.name = true

mutual

/-- The text `s` spells the declaration in front of `c`. -/
def Declaration.Spelled : Declaration → List Char → List Char → Prop
  | .binding b, s, c => b.Spelled verbatim s c
  | .body kind name modifiers attributes members, s, c =>
    ∃ w g t, Gap g ∧ s = w ++ (g ++ '{' :: t) ∧
      WordsSpelled (leadWords attributes modifiers ++ [kind.keyword.toList, name.toList]) w
        (g ++ '{' :: (t ++ c)) ∧
      MembersSpelled members t c ∧
      (∀ a ∈ attributes, isIdentifier a.name = true) ∧ isIdentifier name = true

def MembersSpelled : List Declaration → List Char → List Char → Prop
  | [], s, _ => ∃ m, MemberGap m ∧ s = m ++ ['}']
  | d :: ds, s, c =>
    ∃ m u t, MemberGap m ∧ s = m ++ (u ++ t) ∧ (∀ k ∈ u.head?, isMemberGap k = false) ∧
      d.Spelled u (t ++ c) ∧ MembersSpelled ds t c

end

end Spelling

section Shapes

variable (other type : String → Prop)

mutual

/-- Names are identifiers, and the texts of types and the initializers are as they have to be. -/
def Declaration.Shaped : Declaration → Prop
  | .binding b =>
    (∀ a ∈ b.attributes, isIdentifier a.name = true) ∧ isIdentifier b.name = true ∧
      (∀ text ∈ b.typeText, type text) ∧ ∀ e ∈ b.initializer, e.Shaped other
  | .body _ name _ attributes members =>
    (∀ a ∈ attributes, isIdentifier a.name = true) ∧ isIdentifier name = true ∧
      MembersShaped members

def MembersShaped : List Declaration → Prop
  | [] => True
  | d :: ds => d.Shaped ∧ MembersShaped ds

end

end Shapes

/-- A text that a type can have: it is not empty and has no blank in front or at the end. -/
structure IsTypeText (text : String) : Prop where
  nonempty : text.toList ≠ []
  inType : ∀ k ∈ text.toList, inType k = true
  head : ∀ k ∈ text.toList.head?, isSpace k = false
  ended : Ended text.toList

mutual

/-- The verbatim texts in the text that is written at a depth in front of `c`, each with what follows. -/
def Declaration.verbatimsAt (depth : Nat) : Declaration → List Char → List (String × List Char)
  | .binding b, c =>
    match b.initializer with
    | some e => e.verbatims c
    | none => []
  | .body _ _ _ _ members, c =>
    memberVerbatims (depth + 1) members (indentWritten depth ++ '}' :: c)

def memberVerbatims (depth : Nat) : List Declaration → List Char → List (String × List Char)
  | [], _ => []
  | d :: ds, c =>
    d.verbatimsAt depth ('\n' :: (membersWrittenAt depth ds ++ c)) ++ memberVerbatims depth ds c

end

theorem WordsSpelled.append {words words' : List (List Char)} {s s' c : List Char}
    (h : WordsSpelled words s (s' ++ c)) (h' : WordsSpelled words' s' c) :
    WordsSpelled (words ++ words') (s ++ s') c := by
  induction words generalizing s with
  | nil =>
    obtain rfl : s = [] := h
    exact h'
  | cons word words ih =>
    obtain ⟨g, t, hg, rfl, hends, ht⟩ := h
    exact ⟨g, t ++ s', hg, by simp, by simpa using hends, ih ht⟩

theorem WordsSpelled.gap {word : List Char} {words : List (List Char)} {g s c : List Char}
    (hg : Gap g) (h : WordsSpelled (word :: words) s c) : WordsSpelled (word :: words) (g ++ s) c := by
  obtain ⟨k, t, hk, rfl, hends, ht⟩ := h
  exact ⟨g ++ k, t, hg.append hk, by simp, hends, ht⟩

theorem wordsSpelled_written (words : List (List Char)) (last : List Char) {c : List Char}
    (hc : EndsWord c) :
    WordsSpelled (words ++ [last]) (words.flatMap (fun word => word ++ [' ']) ++ last) c := by
  induction words with
  | nil => exact ⟨[], [], Gap.nil, by simp, by simpa using hc, rfl⟩
  | cons word words ih =>
    have hrest : WordsSpelled (words ++ [last])
        ([' '] ++ (words.flatMap (fun word => word ++ [' ']) ++ last)) c := by
      cases words with
      | nil => exact WordsSpelled.gap gap_space ih
      | cons next words => exact WordsSpelled.gap gap_space ih
    exact ⟨[], _, Gap.nil, by simp, endsWord_cons (by decide), hrest⟩

theorem leadWritten_eq (attributes : List Attribute) (modifiers : List Modifier) :
    leadWritten attributes modifiers =
      (leadWords attributes modifiers).flatMap (fun word => word ++ [' ']) := by
  simp [leadWritten, leadWords, List.flatMap_map]

def startsWord (k : Char) : Bool := k == '@' || startsIdentifier k

theorem startsWord_of_mem {attributes : List Attribute} {modifiers : List Modifier} {keyword : String}
    (hkeyword : isIdentifier keyword = true) {word : List Char}
    (h : word ∈ leadWords attributes modifiers ++ [keyword.toList]) :
    ∃ k t, word = k :: t ∧ startsWord k = true := by
  have hidentifier : ∀ name : String, isIdentifier name = true →
      ∃ k t, name.toList = k :: t ∧ startsWord k = true := by
    intro name hname
    obtain ⟨k, t, hk, hstart⟩ := exists_cons_of_isIdentifier hname
    exact ⟨k, t, hk, by simp [startsWord, hstart]⟩
  simp only [leadWords, List.mem_append, List.mem_map, List.mem_singleton] at h
  rcases h with (⟨a, -, rfl⟩ | ⟨m, -, rfl⟩) | rfl
  · exact ⟨'@', a.name.toList, rfl, by decide⟩
  · exact hidentifier m.keyword (by cases m <;> decide)
  · exact hidentifier keyword hkeyword

theorem isMemberGap_of_isGap {k : Char} (h : isGap k = true) : isMemberGap k = true := by
  simp [isMemberGap, h]

theorem isGap_of_isMemberGap {k : Char} (h : isMemberGap k = false) : isGap k = false := by
  by_contra hk
  rw [isMemberGap_of_isGap (by simpa using hk)] at h
  cases h

theorem isMemberGap_of_startsWord {k : Char} (h : startsWord k = true) : isMemberGap k = false := by
  by_contra hg
  simp only [isMemberGap, isGap, isSpace, Bool.not_eq_false, Bool.or_eq_true, beq_iff_eq] at hg
  rcases hg with rfl | ((rfl | rfl) | rfl) | rfl <;> exact absurd h (by decide)

theorem startsWord_written (attributes : List Attribute) (modifiers : List Modifier)
    {keyword : String} (hkeyword : isIdentifier keyword = true) (s : List Char) :
    ∃ k t, (leadWords attributes modifiers ++ [keyword.toList]).flatMap
      (fun word => word ++ [' ']) ++ s = k :: t ∧ startsWord k = true := by
  cases hwords : leadWords attributes modifiers ++ [keyword.toList] with
  | nil => simp at hwords
  | cons word words =>
    obtain ⟨k, t, rfl, hk⟩ := startsWord_of_mem hkeyword
      (show word ∈ leadWords attributes modifiers ++ [keyword.toList] by rw [hwords]; simp)
    exact ⟨k, _, rfl, hk⟩

/-- The end of the line or of the text. -/
def EndsLine (c : List Char) : Prop := ∀ k ∈ c.head?, k = '\n'

theorem EndsLine.endsWord {c : List Char} (h : EndsLine c) : EndsWord c := by
  intro k hk
  rw [h k hk]
  decide

theorem EndsLine.endsExpression {c : List Char} (h : EndsLine c) : endsExpression c = true := by
  cases c with
  | nil => rfl
  | cons k c =>
    obtain rfl := h k rfl
    rfl

theorem Binding.keyword_written (b : Binding) :
    (if b.isConstant then "let " else "var ").toList = b.keyword.toList ++ [' '] := by
  unfold Binding.keyword
  cases b.isConstant <;> rfl

section Written

variable {other type : String → Prop} {verbatim : String → List Char → List Char → Prop}

def typeWritten : Option String → List Char
  | some text => ':' :: ' ' :: text.toList
  | none => []

def initializerWritten : Option Expression → List Char
  | some e => ' ' :: '=' :: ' ' :: e.written
  | none => []

theorem parts_spelled {typeText : Option String} {initializer : Option Expression} {c : List Char}
    (hc : EndsLine c) (htype : ∀ text ∈ typeText, IsTypeText text)
    (hinit : ∀ e ∈ initializer, e.Spelled verbatim e.written c) :
    ∃ t i, typeWritten typeText ++ initializerWritten initializer = t ++ i ∧
      TypeSpelled typeText t (i ++ c) ∧ InitializerSpelled verbatim initializer i c ∧
      EndsWord (t ++ (i ++ c)) := by
  cases typeText with
  | none =>
    cases initializer with
    | none => exact ⟨[], [], rfl, rfl, rfl, hc.endsWord⟩
    | some e =>
      exact ⟨[], ' ' :: '=' :: ' ' :: e.written, rfl, rfl,
        ⟨[' '], [' '], e.written, gap_space, gap_space, rfl, hinit e rfl, hc.endsExpression⟩,
        endsWord_cons (by decide)⟩
  | some text =>
    obtain ⟨hne, hin, hhead, hended⟩ := htype text rfl
    have hspelled : ∀ b r : List Char, Blank b → (∀ k ∈ b, inType k = true) →
        (∀ k ∈ r.head?, inType k = false) →
        TypeSpelled (some text) (':' :: ' ' :: (text.toList ++ b)) r := by
      intro b r hb hb' hr
      refine ⟨[], [' '], b, Gap.nil, by simp [isSpace], hb, rfl, by simp [hne], ?_, ?_, hended, hr⟩
      · intro k hk
        rcases List.mem_append.1 hk with hk | hk
        · exact hin k hk
        · exact hb' k hk
      · cases ht : text.toList with
        | nil => exact absurd ht hne
        | cons k t =>
          rw [ht] at hhead
          exact hhead
    have hword : ∀ b r : List Char, EndsWord (':' :: ' ' :: (text.toList ++ b) ++ r) := fun _ _ =>
      endsWord_cons (by decide)
    cases initializer with
    | none =>
      refine ⟨':' :: ' ' :: (text.toList ++ []), [], by simp [typeWritten, initializerWritten], ?_, rfl,
        hword [] _⟩
      refine hspelled [] _ Blank.nil (by simp) fun k hk => ?_
      rw [hc k hk]
      decide
    | some e =>
      refine ⟨':' :: ' ' :: (text.toList ++ [' ']), '=' :: ' ' :: e.written,
        by simp [typeWritten, initializerWritten], ?_,
        ⟨[], [' '], e.written, Gap.nil, gap_space, rfl, hinit e rfl, hc.endsExpression⟩, hword [' '] _⟩
      refine hspelled [' '] _ (by simp [Blank]; decide) (by simp; decide) fun k hk => ?_
      obtain rfl := Option.some.inj hk
      decide

theorem Binding.written_eq (b : Binding) : b.written =
    ((leadWords b.attributes b.modifiers ++ [b.keyword.toList]).flatMap
      (fun word => word ++ [' ']) ++ b.name.toList) ++
      (typeWritten b.typeText ++ initializerWritten b.initializer) := by
  rw [Binding.written, Binding.keyword_written, leadWritten_eq]
  cases ht : b.typeText <;> cases hi : b.initializer <;>
    simp [typeWritten, initializerWritten]

theorem Binding.spelled_written {b : Binding} {c : List Char} (hc : EndsLine c)
    (hb : (Declaration.binding b).Shaped other IsTypeText)
    (h : ∀ p ∈ (Declaration.binding b).verbatimsAt 0 c, verbatim p.1 p.1.toList p.2) :
    b.Spelled verbatim b.written c := by
  obtain ⟨hattributes, hname, htype, hinit⟩ := hb
  have hvalue : ∀ e ∈ b.initializer, e.Spelled verbatim e.written c := by
    intro e he
    refine Expression.spelled_written e c (hinit e he) fun p hp => h p ?_
    rw [Option.mem_def] at he
    simpa [Declaration.verbatimsAt, he] using hp
  obtain ⟨t, i, hparts, ht, hi, hends⟩ := parts_spelled hc htype hvalue
  refine ⟨_, t, i, by rw [Binding.written_eq, hparts], ?_, ht, hi, hattributes, hname⟩
  have hwords := wordsSpelled_written (leadWords b.attributes b.modifiers ++ [b.keyword.toList])
    b.name.toList hends
  simpa using hwords

theorem isIdentifier_keyword (b : Binding) : isIdentifier b.keyword = true := by
  unfold Binding.keyword
  cases b.isConstant <;> decide

/-- In front of a declaration stands a gap, then its first word. -/
theorem exists_first {attributes : List Attribute} {modifiers : List Modifier} {keyword name : String}
    (hkeyword : isIdentifier keyword = true) {w c : List Char}
    (h : WordsSpelled (leadWords attributes modifiers ++ [keyword.toList, name.toList]) w c) :
    ∃ g k v, Gap g ∧ w = g ++ k :: v ∧ startsWord k = true := by
  cases hwords : leadWords attributes modifiers ++ [keyword.toList, name.toList] with
  | nil => simp at hwords
  | cons word words =>
    rw [hwords] at h
    obtain ⟨g, t, hg, rfl, -, -⟩ := h
    obtain ⟨k, v, rfl, hk⟩ : ∃ k v, word = k :: v ∧ startsWord k = true := by
      refine @startsWord_of_mem attributes modifiers keyword hkeyword word ?_
      cases hlead : leadWords attributes modifiers <;> simp_all
    exact ⟨g, k, v ++ t, hg, by simp, hk⟩

theorem Declaration.Spelled.first {d : Declaration} {s c : List Char}
    (h : d.Spelled verbatim s c) : ∃ g k v, Gap g ∧ s = g ++ k :: v ∧ startsWord k = true := by
  cases d with
  | binding b =>
    obtain ⟨w, t, i, rfl, hw, -⟩ := h
    obtain ⟨g, k, v, hg, rfl, hk⟩ := exists_first (isIdentifier_keyword b) hw
    exact ⟨g, k, v ++ (t ++ i), hg, by simp, hk⟩
  | body kind name modifiers attributes members =>
    obtain ⟨w, g', t, -, rfl, hw, -⟩ := h
    obtain ⟨g, k, v, hg, rfl, hk⟩ := exists_first (by cases kind <;> decide) hw
    exact ⟨g, k, v ++ (g' ++ '{' :: t), hg, by simp, hk⟩

theorem Declaration.head_written (d : Declaration) (depth : Nat) :
    ∃ k t, d.writtenAt depth = k :: t ∧ startsWord k = true := by
  cases d with
  | binding b =>
    rw [Declaration.writtenAt, Binding.written_eq, List.append_assoc]
    exact startsWord_written _ _ (isIdentifier_keyword b) _
  | body kind name modifiers attributes members =>
    have hkind : isIdentifier kind.keyword = true := by cases kind <;> decide
    obtain ⟨k, t, ht, hk⟩ := startsWord_written attributes modifiers hkind (name.toList ++ ' ' :: '{' :: '\n' :: (membersWrittenAt (depth + 1) members ++
        indentWritten depth ++ ['}']))
    exact ⟨k, t, by rw [← ht]; simp [Declaration.writtenAt, leadWritten_eq], hk⟩

theorem MemberGap.append {m m' : List Char} (hm : MemberGap m) (hm' : MemberGap m') :
    MemberGap (m ++ m') := by
  intro k hk
  rcases List.mem_append.1 hk with hk | hk
  · exact hm k hk
  · exact hm' k hk

theorem memberGap_line : MemberGap ['\n'] := by
  intro k hk
  rw [List.mem_singleton.1 hk]
  decide

theorem memberGap_replicate (depth : Nat) : MemberGap (indentWritten depth) := by
  intro k hk
  rw [List.eq_of_mem_replicate hk]
  decide

theorem memberGap_indent (depth : Nat) : MemberGap ('\n' :: indentWritten depth) :=
  memberGap_line.append (memberGap_replicate depth)

mutual

/-- What is written for a declaration of the right shape spells it. -/
theorem Declaration.spelled_written : (d : Declaration) → (depth : Nat) → {c : List Char} →
    EndsLine c → d.Shaped other IsTypeText →
    (∀ p ∈ d.verbatimsAt depth c, verbatim p.1 p.1.toList p.2) →
      d.Spelled verbatim (d.writtenAt depth) c
  | .binding b, _, c, hc, hd, h => Binding.spelled_written hc hd h
  | .body kind name modifiers attributes members, depth, c, hc, ⟨hattributes, hname, hmembers⟩, h => by
    have hm := membersSpelled_written members (depth + 1) (k := depth) hmembers
      (c := c) (by simpa [Declaration.verbatimsAt] using h)
    have hends : EndsWord ([' '] ++ '{' :: ('\n' :: (membersWrittenAt (depth + 1) members ++
        (indentWritten depth ++ ['}'])) ++ c)) := endsWord_cons (by decide)
    have hwords := wordsSpelled_written (leadWords attributes modifiers ++ [kind.keyword.toList])
      name.toList hends
    refine ⟨_, [' '], _, gap_space, ?_, by simpa using hwords, hm, hattributes, hname⟩
    simp [Declaration.writtenAt, leadWritten_eq]

theorem membersSpelled_written : (ds : List Declaration) → (depth : Nat) → {k : Nat} →
    {c : List Char} → MembersShaped other IsTypeText ds →
    (∀ p ∈ memberVerbatims depth ds (indentWritten k ++ '}' :: c), verbatim p.1 p.1.toList p.2) →
      MembersSpelled verbatim ds
        ('\n' :: (membersWrittenAt depth ds ++ (indentWritten k ++ ['}']))) c
  | [], depth, k, c, _, _ => ⟨'\n' :: indentWritten k, memberGap_indent k, rfl⟩
  | d :: ds, depth, k, c, ⟨hd, hds⟩, h => by
    simp only [memberVerbatims, List.mem_append] at h
    have hline : EndsLine ('\n' :: (membersWrittenAt depth ds ++ (indentWritten k ++ '}' :: c))) :=
      fun k hk => (Option.some.inj hk).symm
    have hspelled := Declaration.spelled_written d depth hline hd fun p hp => h p (.inl hp)
    have hmembers := membersSpelled_written ds depth hds fun p hp => h p (.inr hp)
    obtain ⟨first, t, hfirst, hstart⟩ := d.head_written depth
    refine ⟨'\n' :: indentWritten depth, d.writtenAt depth, _, memberGap_indent depth, ?_, ?_, ?_,
      hmembers⟩
    · simp [membersWrittenAt]
    · rw [hfirst]
      rintro k hk
      obtain rfl := Option.some.inj hk
      exact isMemberGap_of_startsWord hstart
    · simpa using hspelled

end

end Written

end SourceMacros

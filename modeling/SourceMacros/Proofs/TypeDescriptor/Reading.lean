import SourceMacros.Proofs.Reader.Laws
import SourceMacros.Proofs.Results
import SourceMacros.Proofs.TypeDescriptor.Grammar

/-! A description of a type is read off just the texts that spell it, if it has no more layers than may be
read, `TypeDescriptor.parseWithin_eq_ok_iff`. What decides is that no colon of a text that spells a type
stands outside brackets. -/

namespace SourceMacros

open Text

namespace TypeDescriptor

theorem unbracket_eq_some {s inner : List Char} :
    unbracket s = some inner ↔ s = '[' :: (inner ++ [']']) := by
  constructor
  · intro h
    unfold unbracket at h
    split at h
    case h_1 r =>
      split at h
      case isTrue hlast =>
        obtain ⟨t, rfl⟩ := List.getLast?_eq_some_iff.1 hlast
        rw [List.dropLast_concat, Option.some.injEq] at h
        rw [h]
      case isFalse => cases h
    case h_2 => cases h
  · rintro rfl
    simp [unbracket]

theorem unquestion_eq_some {s inner : List Char} :
    unquestion s = some inner ↔ s = inner ++ ['?'] := by
  constructor
  · intro h
    unfold unquestion at h
    split at h
    case isTrue hlast =>
      obtain ⟨t, rfl⟩ := List.getLast?_eq_some_iff.1 hlast
      rw [List.dropLast_concat, Option.some.injEq] at h
      rw [h]
    case isFalse => cases h
  · rintro rfl
    simp [unquestion]

theorem unbracket_eq_none {s : List Char} {c : Char} (hc : c ≠ ']') : unbracket (s ++ [c]) = none := by
  by_contra h
  obtain ⟨inner, hinner⟩ := Option.ne_none_iff_exists'.1 h
  have hs := unbracket_eq_some.1 hinner
  rw [← List.cons_append] at hs
  exact hc (by simpa using (List.append_inj' hs rfl).2)

section Colons

theorem eq_of_splitColon {n : Nat} {s key value : List Char}
    (h : splitColon n s = some (key, value)) : s = key ++ ':' :: value := by
  induction s generalizing n key with
  | nil => cases h
  | cons c s ih =>
    rw [splitColon] at h
    split at h
    case isTrue hcolon =>
      obtain ⟨rfl, rfl⟩ := Prod.mk.inj (Option.some.inj h)
      rw [hcolon.2, List.nil_append]
    case isFalse =>
      obtain ⟨⟨key', value'⟩, hsplit, hpair⟩ := Option.map_eq_some_iff.1 h
      obtain ⟨rfl, rfl⟩ := Prod.mk.inj hpair
      rw [ih hsplit, List.cons_append]

/-- Where `n` brackets are open or more, no colon of the text is outside brackets, and as many are open
behind it. -/
def Passes (n : Nat) (s : List Char) : Prop :=
  ∀ m r, n ≤ m → splitColon m (s ++ r) = (splitColon m r).map fun p => (s ++ p.1, p.2)

variable {n : Nat} {s t : List Char}

theorem Passes.nil : Passes n [] := by
  intro m r _
  simp

theorem Passes.append (hs : Passes n s) (ht : Passes n t) : Passes n (s ++ t) := by
  intro m r hm
  rw [List.append_assoc, hs m _ hm, ht m _ hm, Option.map_map]
  simp [Function.comp_def]

theorem Passes.mono {k : Nat} (hs : Passes n s) (h : n ≤ k) : Passes k s :=
  fun m r hm => hs m r (h.trans hm)

theorem Passes.single {c : Char} (hopen : c ≠ '[') (hclose : c ≠ ']') (hcolon : c ≠ ':') :
    Passes n [c] := by
  intro m r _
  rw [List.singleton_append, splitColon]
  simp [hopen, hclose, hcolon]

theorem Passes.of_forall (h : ∀ c ∈ s, c ≠ '[' ∧ c ≠ ']' ∧ c ≠ ':') : Passes n s := by
  induction s with
  | nil => exact Passes.nil
  | cons c s ih =>
    obtain ⟨hc, hs⟩ := List.forall_mem_cons.1 h
    exact (Passes.single hc.1 hc.2.1 hc.2.2).append (ih hs)

theorem Passes.colon : Passes 1 [':'] := by
  intro m r hm
  have hne : ¬ (m = 0 ∧ (':' : Char) = ':') := fun h => absurd h.1 (Nat.ne_of_gt hm)
  rw [List.singleton_append, splitColon, if_neg hne]
  rfl

theorem Passes.bracket (hs : Passes (n + 1) s) : Passes n ('[' :: (s ++ [']'])) := by
  intro m r hm
  have hopen : ∀ u, splitColon m ('[' :: u) = (splitColon (m + 1) u).map fun p => ('[' :: p.1, p.2) := by
    intro u
    rw [splitColon]
    simp
  have hclose : splitColon (m + 1) (']' :: r) = (splitColon m r).map fun p => (']' :: p.1, p.2) := by
    rw [splitColon]
    simp
  rw [List.cons_append, List.append_assoc, List.singleton_append, hopen, hs _ _ (Nat.succ_le_succ hm),
    hclose, Option.map_map, Option.map_map]
  simp [Function.comp_def]

theorem Passes.splitColon_eq_none (hs : Passes 0 s) : splitColon 0 s = none := by
  have h := hs 0 [] le_rfl
  rwa [List.append_nil] at h

theorem Passes.splitColon_colon (hs : Passes 0 s) (value : List Char) :
    splitColon 0 (s ++ ':' :: value) = some (s, value) := by
  rw [hs 0 _ le_rfl, splitColon]
  simp

theorem passes_blank {b : List Char} (hb : Blank b) : Passes n b := by
  refine Passes.of_forall fun c hc => ⟨?_, ?_, ?_⟩ <;>
    (rintro rfl; exact absurd (hb _ hc) (by decide))

theorem passes_identifier {name : String} (h : isIdentifier name = true) : Passes n name.toList := by
  refine Passes.of_forall fun c hc => ⟨?_, ?_, ?_⟩ <;>
    (rintro rfl; exact absurd (continuesIdentifier_of_mem h hc) (by decide))

end Colons

theorem isIdentifier_primitive (p : PrimitiveType) : isIdentifier p.name = true := by
  cases p <;> decide

/-- In a text that spells a type no colon stands outside brackets. -/
theorem Spelled.passes {t : TypeDescriptor} {s : List Char} (h : t.Spelled s) : Passes 0 s := by
  induction h with
  | primitive p hb hb' =>
    exact (passes_blank hb).append ((passes_identifier (isIdentifier_primitive p)).append (passes_blank hb'))
  | custom hname hb hb' =>
    exact (passes_blank hb).append ((passes_identifier hname.identifier).append (passes_blank hb'))
  | optional _ hb ih =>
    have hsign : Passes 0 ['?'] := Passes.single (by decide) (by decide) (by decide)
    exact ih.append (hsign.append (passes_blank hb))
  | array _ hb hb' ih =>
    have hinside := (ih.mono (Nat.zero_le 1)).bracket
    simpa using (passes_blank hb).append (hinside.append (passes_blank hb'))
  | dictionary _ _ hb hb' ih ih' =>
    have hleft := ih.mono (Nat.zero_le 1)
    have hright := ih'.mono (Nat.zero_le 1)
    have hinside := (hleft.append (Passes.colon.append hright)).bracket
    simpa using (passes_blank hb).append (hinside.append (passes_blank hb'))

section Steps

variable {whole s inner key value : List Char} {n : Nat}

theorem parseWithin_dictionary (h : trim s = '[' :: (inner ++ [']']))
    (hsplit : splitColon 0 inner = some (key, value)) :
    parseWithin whole (n + 1) s = do
      let key ← parseWithin whole n key
      let value ← parseWithin whole n value
      return .dictionary key value := by
  simp only [parseWithin, unbracket_eq_some.2 h, hsplit]

theorem parseWithin_array (h : trim s = '[' :: (inner ++ [']'])) (hsplit : splitColon 0 inner = none) :
    parseWithin whole (n + 1) s = do return .array (← parseWithin whole n inner) := by
  simp only [parseWithin, unbracket_eq_some.2 h, hsplit]

theorem parseWithin_optional (h : trim s = inner ++ ['?']) :
    parseWithin whole (n + 1) s = do return .optional (← parseWithin whole n inner) := by
  have hbracket : unbracket (trim s) = none := by
    rw [h]
    exact unbracket_eq_none (by decide)
  simp only [parseWithin, hbracket, unquestion_eq_some.2 h]

/-- A text is neither in brackets nor has it a question mark at its end. -/
structure Leaf (s : List Char) : Prop where
  unbracket : TypeDescriptor.unbracket s = none
  unquestion : TypeDescriptor.unquestion s = none

theorem parseWithin_leaf (h : Leaf (trim s)) : parseWithin whole (n + 1) s = ofName (trim s) := by
  simp only [parseWithin, h.unbracket, h.unquestion]

/-- A text is a dictionary, a list, an optional type or a name by its ends and its first colon. -/
theorem parseWithin_cases (s : List Char) :
    (∃ key value, trim s = '[' :: (key ++ ':' :: value ++ [']']) ∧ ∀ whole n,
      parseWithin whole (n + 1) s = do
        let key ← parseWithin whole n key
        let value ← parseWithin whole n value
        return .dictionary key value) ∨
    (∃ inner, trim s = '[' :: (inner ++ [']']) ∧ ∀ whole n,
      parseWithin whole (n + 1) s = do return .array (← parseWithin whole n inner)) ∨
    (∃ inner, trim s = inner ++ ['?'] ∧ ∀ whole n,
      parseWithin whole (n + 1) s = do return .optional (← parseWithin whole n inner)) ∨
    Leaf (trim s) ∧ ∀ whole n, parseWithin whole (n + 1) s = ofName (trim s) := by
  cases hbracket : unbracket (trim s) with
  | some inner =>
    have htrim := unbracket_eq_some.1 hbracket
    cases hsplit : splitColon 0 inner with
    | some parts =>
      obtain ⟨key, value⟩ := parts
      refine .inl ⟨key, value, ?_, fun whole n => parseWithin_dictionary htrim hsplit⟩
      rw [htrim, eq_of_splitColon hsplit]
    | none => exact .inr (.inl ⟨inner, htrim, fun whole n => parseWithin_array htrim hsplit⟩)
  | none =>
    cases hquestion : unquestion (trim s) with
    | some inner =>
      have htrim := unquestion_eq_some.1 hquestion
      exact .inr (.inr (.inl ⟨inner, htrim, fun whole n => parseWithin_optional htrim⟩))
    | none =>
      have hleaf : Leaf (trim s) := ⟨hbracket, hquestion⟩
      exact .inr (.inr (.inr ⟨hleaf, fun whole n => parseWithin_leaf hleaf⟩))

end Steps

section Names

theorem ofName?_eq_some {name : String} {p : PrimitiveType} :
    PrimitiveType.ofName? name = some p ↔ p.name = name := by
  constructor
  · intro h
    simpa using List.find?_some h
  · rintro rfl
    cases p <;> decide

theorem ofName_primitive (p : PrimitiveType) : ofName p.name.toList = .ok (.primitive p) := by
  rw [ofName, String.ofList_toList, ofName?_eq_some.2 rfl]

theorem ofName_custom {name : String} (h : IsCustomName name) : ofName name.toList = .ok (.custom name) := by
  have hnone : PrimitiveType.ofName? name = none := by
    by_contra hne
    obtain ⟨p, hp⟩ := Option.ne_none_iff_exists'.1 hne
    exact h.notPrimitive p (ofName?_eq_some.1 hp)
  have hid : isIdentifierText name.toList = true := h.identifier
  simp only [ofName, String.ofList_toList, hnone, hid, if_true]

theorem spelled_of_ofName {s b b' : List Char} {t : TypeDescriptor} (hb : Blank b) (hb' : Blank b')
    (h : ofName s = .ok t) : t.Spelled (b ++ (s ++ b')) ∧ t.layers = 0 := by
  unfold ofName at h
  cases hp : PrimitiveType.ofName? (String.ofList s) with
  | some p =>
    rw [hp] at h
    obtain rfl := Except.ok.inj h
    have hname : s = p.name.toList := by rw [ofName?_eq_some.1 hp, String.toList_ofList]
    exact ⟨hname ▸ .primitive p hb hb', rfl⟩
  | none =>
    simp only [hp] at h
    split at h
    case isTrue hid =>
      obtain rfl := Except.ok.inj h
      have hcustom : IsCustomName (String.ofList s) := by
        refine ⟨by rwa [isIdentifier, String.toList_ofList], fun p hname => ?_⟩
        rw [ofName?_eq_some.2 hname] at hp
        cases hp
      have hspelled := Spelled.custom hcustom hb hb'
      rw [String.toList_ofList] at hspelled
      exact ⟨hspelled, rfl⟩
    case isFalse => cases h

theorem leaf_identifier {name : String} (h : isIdentifier name = true) : Leaf name.toList := by
  constructor
  · by_contra hne
    obtain ⟨inner, hinner⟩ := Option.ne_none_iff_exists'.1 hne
    have hmem : '[' ∈ name.toList := by simp [unbracket_eq_some.1 hinner]
    exact absurd (continuesIdentifier_of_mem h hmem) (by decide)
  · by_contra hne
    obtain ⟨inner, hinner⟩ := Option.ne_none_iff_exists'.1 hne
    have hmem : '?' ∈ name.toList := by simp [unquestion_eq_some.1 hinner]
    exact absurd (continuesIdentifier_of_mem h hmem) (by decide)

theorem trim_identifier {name : String} (h : isIdentifier name = true) {b b' : List Char}
    (hb : Blank b) (hb' : Blank b') : trim (b ++ (name.toList ++ b')) = name.toList := by
  have hne : name.toList ≠ [] := by
    intro hnil
    rw [isIdentifier, hnil] at h
    cases h
  exact (trimmed_identifier h).trim_eq hb hb' hne

theorem parseWithin_identifier {name : String} (h : isIdentifier name = true) {b b' : List Char}
    (hb : Blank b) (hb' : Blank b') (whole : List Char) (n : Nat) :
    parseWithin whole (n + 1) (b ++ (name.toList ++ b')) = ofName name.toList := by
  have htrim := trim_identifier h hb hb'
  rw [parseWithin_leaf (by rw [htrim]; exact leaf_identifier h), htrim]

end Names

theorem trim_bracketed (s : List Char) {b b' : List Char} (hb : Blank b) (hb' : Blank b') :
    trim (b ++ '[' :: (s ++ ']' :: b')) = '[' :: (s ++ [']']) := by
  have htrimmed : Trimmed ('[' :: (s ++ [']'])) := by
    refine ⟨fun c hc => ?_, ended_append_singleton ('[' :: s) (by decide)⟩
    rw [← Option.some.inj hc]
    decide
  simpa using htrimmed.trim_eq hb hb' (List.cons_ne_nil _ _)

theorem trim_questioned (s : List Char) {b : List Char} (hb : Blank b) :
    trim (s ++ '?' :: b) = trimStart s ++ ['?'] := by
  have hhead : ∀ c ∈ ('?' :: b).head?, isBlank c = false := by
    intro c hc
    rw [← Option.some.inj hc]
    decide
  have hstart : trimStart (s ++ '?' :: b) = trimStart s ++ ['?'] ++ b := by
    rw [trimStart, dropWhile_append_of_head hhead, ← trimStart, List.append_assoc, List.singleton_append]
  rw [trim, hstart, trimEnd_append hb (ended_append_singleton _ (by decide))]

/-- The blanks around a text do not matter. -/
theorem parseWithin_congr {s s' : List Char} (h : trim s = trim s') (whole : List Char) (n : Nat) :
    parseWithin whole n s = parseWithin whole n s' := by
  cases n with
  | zero => rfl
  | succ n => rw [parseWithin, parseWithin, h]

theorem Spelled.parseWithin_eq_ok {t : TypeDescriptor} {s : List Char} (h : t.Spelled s)
    (whole : List Char) {n : Nat} (hn : t.layers < n) : parseWithin whole n s = .ok t := by
  induction h generalizing n with
  | primitive p hb hb' =>
    obtain ⟨m, rfl⟩ := Nat.exists_eq_succ_of_ne_zero (Nat.ne_zero_of_lt hn)
    rw [parseWithin_identifier (isIdentifier_primitive p) hb hb', ofName_primitive]
  | custom hname hb hb' =>
    obtain ⟨m, rfl⟩ := Nat.exists_eq_succ_of_ne_zero (Nat.ne_zero_of_lt hn)
    rw [parseWithin_identifier hname.identifier hb hb', ofName_custom hname]
  | optional _ hb ih =>
    obtain ⟨m, rfl⟩ := Nat.exists_eq_succ_of_ne_zero (Nat.ne_zero_of_lt hn)
    rw [parseWithin_optional (trim_questioned _ hb), parseWithin_congr (trim_trimStart _),
      ih (Nat.lt_of_succ_lt_succ hn)]
    rfl
  | array hs hb hb' ih =>
    obtain ⟨m, rfl⟩ := Nat.exists_eq_succ_of_ne_zero (Nat.ne_zero_of_lt hn)
    rw [parseWithin_array (trim_bracketed _ hb hb') hs.passes.splitColon_eq_none,
      ih (Nat.lt_of_succ_lt_succ hn)]
    rfl
  | @dictionary k v s s' b b' hs hs' hb hb' ih ih' =>
    obtain ⟨m, rfl⟩ := Nat.exists_eq_succ_of_ne_zero (Nat.ne_zero_of_lt hn)
    have hlayers : max k.layers v.layers < m := Nat.lt_of_succ_lt_succ hn
    have htrim : trim (b ++ '[' :: (s ++ ':' :: (s' ++ ']' :: b'))) =
        '[' :: (s ++ ':' :: s' ++ [']']) := by
      have hwhole := trim_bracketed (s ++ ':' :: s') hb hb'
      rwa [List.append_assoc, List.cons_append] at hwhole
    rw [parseWithin_dictionary htrim (hs.passes.splitColon_colon s'), ih (by omega), ih' (by omega)]
    rfl

theorem spelled_of_parseWithin {whole s : List Char} {n : Nat} {t : TypeDescriptor}
    (h : parseWithin whole n s = .ok t) : t.Spelled s ∧ t.layers < n := by
  induction n generalizing s t with
  | zero => cases h
  | succ n ih =>
    obtain ⟨b, b', hb, hb', hs, -⟩ := exists_trim s
    rcases parseWithin_cases s with ⟨key, value, htrim, heq⟩ | ⟨inner, htrim, heq⟩ |
      ⟨inner, htrim, heq⟩ | ⟨-, heq⟩
    · rw [heq] at h
      obtain ⟨k, hkey, hrest⟩ := except_bind_eq_ok.1 h
      obtain ⟨v, hvalue, hdone⟩ := except_bind_eq_ok.1 hrest
      obtain rfl := Except.ok.inj hdone
      obtain ⟨hk, hlk⟩ := ih hkey
      obtain ⟨hv, hlv⟩ := ih hvalue
      refine ⟨?_, Nat.succ_lt_succ (max_lt hlk hlv)⟩
      rw [hs, htrim]
      simpa using Spelled.dictionary hk hv hb hb'
    · rw [heq] at h
      obtain ⟨w, hinner, hdone⟩ := except_bind_eq_ok.1 h
      obtain rfl := Except.ok.inj hdone
      obtain ⟨hw, hlw⟩ := ih hinner
      refine ⟨?_, Nat.succ_lt_succ hlw⟩
      rw [hs, htrim]
      simpa using Spelled.array hw hb hb'
    · rw [heq] at h
      obtain ⟨w, hinner, hdone⟩ := except_bind_eq_ok.1 h
      obtain rfl := Except.ok.inj hdone
      obtain ⟨hw, hlw⟩ := ih hinner
      refine ⟨?_, Nat.succ_lt_succ hlw⟩
      rw [hs, htrim]
      simpa using Spelled.optional (hw.blank_append hb) hb'
    · rw [heq] at h
      obtain ⟨hspelled, hlayers⟩ := spelled_of_ofName hb hb' h
      rw [hs]
      exact ⟨hspelled, hlayers ▸ Nat.succ_pos n⟩

theorem parseWithin_eq_ok_iff {whole s : List Char} {n : Nat} {t : TypeDescriptor} :
    parseWithin whole n s = .ok t ↔ t.Spelled s ∧ t.layers < n :=
  ⟨spelled_of_parseWithin, fun h => h.1.parseWithin_eq_ok whole h.2⟩

end TypeDescriptor
end SourceMacros

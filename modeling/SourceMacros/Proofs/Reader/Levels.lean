import Mathlib.Data.List.TakeWhile
import SourceMacros.Proofs.Reader.Related
import SourceMacros.Reader.Declaration

/-! The bounds of the readers are never met: with more levels than the text is long they all find the
same. So an expression is read by its own shape, `expression_eq`, and a declaration by its own,
`declaration_eq`, and no reader lengthens the text. -/

namespace SourceMacros.Reader

variable {α β : Type} {n : Nat}

/-- The same text, shorter than `n`. -/
def Below (n : Nat) (s s' : List Char) : Prop := s = s' ∧ s.length < n

/-- On texts shorter than `n` the readers do the same and leave no longer text. -/
def Steady (n : Nat) (p q : Reader α) : Prop :=
  ∀ m, m ≤ n → Related Eq (Below m) (Below m) p q

def Shrinks (p : Reader α) : Prop := ∀ s a r, p s = .done a r → r.length ≤ s.length

/-- A reader that finds something takes a character at least. -/
def Consumes (p : Reader α) : Prop := ∀ s a r, p s = .done a r → r.length < s.length

theorem Consumes.shrinks {p : Reader α} (h : Consumes p) : Shrinks p :=
  fun s a r hp => (h s a r hp).le

theorem Steady.mono {m : Nat} {p q : Reader α} (h : Steady n p q) (hm : m ≤ n) : Steady m p q :=
  fun k hk => h k (hk.trans hm)

theorem Shrinks.steady {p : Reader α} (h : Shrinks p) : Steady n p p := by
  rintro m - s _ ⟨rfl, hs⟩
  cases hp : p s with
  | done a r => exact ⟨rfl, rfl, lt_of_le_of_lt (h s a r hp) hs⟩
  | miss r => rfl
  | halt r => rfl

theorem Steady.shrinks {p : Reader α} (h : ∀ n, Steady n p p) : Shrinks p := by
  intro s a r hp
  have hs := h (s.length + 1) _ le_rfl ⟨rfl, Nat.lt_succ_self s.length⟩
  rw [hp] at hs
  exact Nat.le_of_lt_succ hs.2.2

theorem Steady.eq {p q : Reader α} (h : Steady n p q) {s : List Char} (hs : s.length < n) :
    p s = q s := by
  have hpq := h n le_rfl ⟨rfl, hs⟩
  cases hp : p s <;> cases hq : q s <;> simp only [hp, hq, Outcome.Agree, Below] at hpq
  case done.done a r b r' => rw [hpq.1, hpq.2.1]
  all_goals rw [hpq]

theorem Steady.bind {p q : Reader α} {f g : α → Reader β} (h : Steady n p q)
    (hf : ∀ a, Steady n (f a) (g a)) : Steady n (p >>= f) (q >>= g) :=
  fun m hm => (h m hm).bind fun a => hf a m hm

theorem steady_pure (a : α) : Steady n (pure a : Reader α) (pure a) :=
  fun _ _ => related_pure a fun _ _ => id

theorem Steady.orElse {p q p' q' : Reader α} (h : Steady n p q) (h' : Steady n p' q') :
    Steady n (p <|> p') (q <|> q') := fun m hm => (h m hm).orElse (h' m hm)

theorem Steady.optional {p q : Reader α} (h : Steady n p q) : Steady n (optional p) (optional q) :=
  fun m hm => (h m hm).optional fun _ _ => id

theorem Below.length_iff {s s' r r' : List Char} (hs : Below n s s') (hr : Below n r r') :
    r.length < s.length ↔ r'.length < s'.length := by rw [hs.1, hr.1]

theorem Steady.many {p q : Reader α} (h : Steady n p q) : Steady n (many p) (many q) :=
  fun m hm => (h m hm).many (fun _ _ _ _ => Below.length_iff) fun _ _ => And.left

theorem Steady.separated {separator : Reader Unit} {p q : Reader α} (hsep : Shrinks separator)
    (h : Steady n p q) : Steady n (separated separator p) (separated separator q) :=
  fun m hm => Related.separated (hsep.steady m le_rfl) (h m hm) (fun _ _ _ _ => Below.length_iff)
    fun _ _ => And.left

theorem shrinks_skip (test : Char → Bool) : Shrinks (skip test) := by
  intro s a r h
  injection h with _ hr
  exact hr ▸ List.length_dropWhile_le test s

theorem length_of_char {c : Char} {s r : List Char} {a : Unit} (h : char c s = .done a r) :
    r.length < s.length := by
  cases s with
  | nil => simp [char] at h
  | cons d s =>
    simp only [char] at h
    split at h
    · injection h with _ hr
      simp [hr]
    · cases h

theorem consumes_char (c : Char) : Consumes (char c) := fun _ _ _ => length_of_char

theorem shrinks_char (c : Char) : Shrinks (char c) := (consumes_char c).shrinks

theorem Steady.afterChar {c : Char} {p q : Reader α} (h : Steady n p q) :
    Steady (n + 1) (do char c; p) (do char c; q) := by
  rintro m hm s _ ⟨rfl, hs⟩
  rw [bind_apply, bind_apply]
  cases hp : char c s with
  | done a r =>
    have hr := length_of_char hp
    have hpq := h (m - 1) (by omega) ⟨rfl, (by omega : r.length < m - 1)⟩
    dsimp only
    cases hpr : p r <;> cases hqr : q r <;> simp only [hpr, hqr, Outcome.Agree, Below] at hpq ⊢
    case done.done => exact ⟨hpq.1, hpq.2.1, by omega⟩
    all_goals exact hpq
  | miss r => rfl
  | halt r => rfl

theorem steady_symbol (c : Char) : Steady n (symbol c) (symbol c) :=
  (shrinks_skip _).steady.bind fun _ => (shrinks_char c).steady

theorem shrinks_symbol (c : Char) : Shrinks (symbol c) := Steady.shrinks fun _ => steady_symbol c

theorem consumes_identifier : Consumes identifier := by
  intro s a r h
  cases s with
  | nil => cases h
  | cons c s =>
    simp only [identifier] at h
    split at h
    · injection h with _ hr
      have := List.length_dropWhile_le Text.continuesIdentifier s
      simp only [← hr, List.length_cons]
      omega
    · cases h

theorem shrinks_identifier : Shrinks identifier := consumes_identifier.shrinks

theorem steady_name : Steady n name name :=
  (shrinks_skip _).steady.bind fun _ => shrinks_identifier.steady

theorem shrinks_name : Shrinks name := Steady.shrinks fun _ => steady_name

theorem shrinks_keyword (word : String) : Shrinks (keyword word) := by
  intro s a r h
  simp only [keyword] at h
  split at h
  case h_1 found t ht =>
    split at h
    · injection h with _ hr
      exact hr ▸ shrinks_name s found t ht
    · cases h
  all_goals cases h

theorem length_splitSign (s : List Char) : (splitSign s).2.length ≤ s.length := by
  unfold splitSign
  split <;> simp

theorem consumes_integer : Consumes integer := by
  intro s a r h
  have hs := length_splitSign s
  simp only [integer] at h
  split at h
  case h_1 sign c t ht =>
    rw [ht] at hs
    split at h
    · injection h with _ hr
      have := List.length_dropWhile_le Text.continuesIdentifier t
      simp only [← hr]
      simp only [List.length_cons] at hs
      omega
    · cases h
  case h_2 => cases h

theorem shrinks_integer : Shrinks integer := consumes_integer.shrinks

theorem shrinks_expressionEnd : Shrinks expressionEnd := by
  intro s a r h
  simp only [expressionEnd] at h
  split at h
  · injection h with _ hr
    exact (congrArg List.length hr).ge
  · cases h

theorem Steady.closed {p q : Reader Expression} (h : Steady n p q) :
    Steady n (closed p) (closed q) :=
  h.bind fun _ => shrinks_expressionEnd.steady.bind fun _ => steady_pure _

theorem length_splitVerbatim (depth : Nat) (quoting : Quoting) (s : List Char) :
    (splitVerbatim depth quoting s).2.length ≤ s.length := by
  fun_induction splitVerbatim depth quoting s <;> simp_all <;> omega

theorem shrinks_verbatim : Shrinks verbatim := by
  intro s a r h
  simp only [verbatim] at h
  split at h
  · cases h
  · injection h with _ hr
    exact hr ▸ length_splitVerbatim 0 .outside s

theorem length_literalText (s : List Char) : (literalText s).2.length ≤ s.length := by
  fun_induction literalText s <;> simp_all <;> omega

theorem Steady.segmentsWithin {p q : Reader Expression} (h : Steady n p q) (i j : Nat)
    (hi : n ≤ i) (hj : n ≤ j) : Steady n (segmentsWithin p i) (segmentsWithin q j) := by
  induction n generalizing i j with
  | zero =>
    rintro m hm s _ ⟨rfl, hs⟩
    omega
  | succ n ih =>
    obtain ⟨i, rfl⟩ : ∃ k, i = k + 1 := ⟨i - 1, by omega⟩
    obtain ⟨j, rfl⟩ : ∃ k, j = k + 1 := ⟨j - 1, by omega⟩
    rintro m hm s _ ⟨rfl, hs⟩
    have hlen := length_literalText s
    simp only [Reader.segmentsWithin]
    split
    case h_1 r hr =>
      refine ⟨rfl, rfl, ?_⟩
      rw [hr, List.length_cons] at hlen
      omega
    case h_2 r hr =>
      rw [hr, List.length_cons, List.length_cons] at hlen
      have hmore := ih (h.mono n.le_succ) i j (by omega) (by omega)
      have hrest := (h.mono n.le_succ).bind fun value => (steady_symbol ')').bind fun _ =>
        hmore.bind fun more => steady_pure
          (textSegment (literalText s).1 ++ Segment.interpolation value :: more)
      have hpq := hrest (m - 1) (by omega) ⟨rfl, (by omega : r.length < m - 1)⟩
      refine Outcome.Agree.mono hpq fun _ _ hr => ⟨hr.1, by have := hr.2; omega⟩
    case h_3 => rfl

theorem Steady.segments {p q : Reader Expression} (h : Steady n p q) :
    Steady n (segments p) (segments q) := by
  rintro m hm s _ ⟨rfl, hs⟩
  have hpq := (h.mono ((Nat.succ_le_of_lt hs).trans hm)).segmentsWithin (s.length + 1) (s.length + 1)
    le_rfl le_rfl _ le_rfl ⟨rfl, Nat.lt_succ_self _⟩
  exact hpq.mono fun _ _ hr => ⟨hr.1, by have := hr.2; omega⟩

theorem segments_of_quote (p : Reader Expression) {s r : List Char}
    (h : (literalText s).2 = '"' :: r) :
    segments p s = .done (textSegment (literalText s).1) r := by
  simp only [segments, Reader.segmentsWithin, h]

theorem segments_of_interpolation {p : Reader Expression} (hp : Shrinks p) {s r : List Char}
    (h : (literalText s).2 = '\\' :: '(' :: r) :
    segments p s =
      (do
        let value ← p
        symbol ')'
        let more ← segments p
        return textSegment (literalText s).1 ++ .interpolation value :: more
        : Reader (List Segment)) r := by
  have hlen := length_literalText s
  rw [h, List.length_cons, List.length_cons] at hlen
  have hmore : Steady s.length (Reader.segmentsWithin p s.length) (segments p) := by
    rintro m hm t _ ⟨rfl, ht⟩
    have hpq := hp.steady.segmentsWithin (n := t.length + 1) s.length (t.length + 1) (by omega) le_rfl
      _ le_rfl ⟨rfl, Nat.lt_succ_self _⟩
    exact hpq.mono fun _ _ hr => ⟨hr.1, by have := hr.2; omega⟩
  have hrest := (hp.steady (n := s.length)).bind fun value => (steady_symbol ')').bind fun _ =>
    hmore.bind fun more => steady_pure
      (textSegment (literalText s).1 ++ Segment.interpolation value :: more)
  simp only [segments, Reader.segmentsWithin, h]
  exact hrest.eq (by omega)

theorem Steady.stringLiteral {p q : Reader Expression} (h : Steady n p q) :
    Steady (n + 1) (stringLiteral p) (stringLiteral q) :=
  Steady.afterChar (h.segments.bind fun _ => steady_pure _)

theorem Steady.entry {p q : Reader Expression} (h : Steady n p q) :
    Steady n (entry p) (entry q) :=
  h.bind fun _ => (steady_symbol ':').bind fun _ => h.bind fun _ => steady_pure _

theorem Steady.dictionary {p q : Reader Expression} (h : Steady n p q) :
    Steady (n + 1) (dictionary p) (dictionary q) := by
  refine Steady.orElse (Steady.afterChar ?_) (Steady.afterChar ?_)
  · exact (steady_symbol ':').bind fun _ => (steady_symbol ']').bind fun _ => steady_pure _
  · exact (Steady.separated (shrinks_symbol ',') h.entry).bind fun _ =>
      (steady_symbol ',').optional.bind fun _ => (steady_symbol ']').bind fun _ => steady_pure _

theorem steady_label : Steady n label label :=
  steady_name.bind fun _ => (shrinks_skip _).steady.bind fun _ =>
    (shrinks_char ':').steady.bind fun _ => steady_pure _

theorem Steady.argument {p q : Reader Expression} (h : Steady n p q) :
    Steady n (argument p) (argument q) :=
  steady_label.optional.bind fun _ => h.bind fun _ => steady_pure _

theorem Steady.argumentList {p q : Reader Expression} (h : Steady n p q) :
    Steady (n + 1) (argumentList p) (argumentList q) := by
  refine Steady.afterChar ?_
  exact (Steady.separated (shrinks_symbol ',') h.argument).optional.bind fun _ =>
    (steady_symbol ',').optional.bind fun _ => (steady_symbol ')').bind fun _ => steady_pure _

theorem Steady.callOrIdentifier {p q : Reader Expression} (h : Steady n p q) :
    Steady (n + 1) (callOrIdentifier p) (callOrIdentifier q) := by
  refine shrinks_identifier.steady.bind fun _ => h.argumentList.optional.bind fun arguments => ?_
  cases arguments <;> exact steady_pure _

theorem Steady.expressionShape {p q : Reader Expression} (h : Steady n p q) :
    Steady (n + 1) (expressionShape p) (expressionShape q) :=
  shrinks_integer.steady.closed.orElse <| h.stringLiteral.closed.orElse <|
    h.dictionary.closed.orElse <| h.callOrIdentifier.closed.orElse shrinks_verbatim.steady

theorem steady_expressionWithin (k m : Nat) (hk : n ≤ k) (hm : n ≤ m) :
    Steady n (expressionWithin k) (expressionWithin m) := by
  induction n generalizing k m with
  | zero =>
    rintro i hi s _ ⟨rfl, hs⟩
    omega
  | succ n ih =>
    obtain ⟨k, rfl⟩ : ∃ j, k = j + 1 := ⟨k - 1, by omega⟩
    obtain ⟨m, rfl⟩ : ∃ j, m = j + 1 := ⟨m - 1, by omega⟩
    exact (shrinks_skip _).steady.bind fun _ => (ih k m (by omega) (by omega)).expressionShape

/-- With more levels than the text is long an expression is read the same. -/
theorem expressionWithin_eq {levels : Nat} {s : List Char} (h : s.length < levels) :
    expressionWithin levels s = expression s :=
  (steady_expressionWithin levels (s.length + 1) h le_rfl).eq (Nat.lt_succ_self _)

theorem steady_expressionWithin_expression {k : Nat} (hk : n ≤ k) :
    Steady n (expressionWithin k) expression := by
  rintro m hm s _ ⟨rfl, hs⟩
  rw [← expressionWithin_eq (lt_of_lt_of_le hs (hm.trans hk))]
  exact steady_expressionWithin k k hk hk m hm ⟨rfl, hs⟩

theorem shrinks_expression : Shrinks expression := by
  intro s a r h
  have hs := steady_expressionWithin (s.length + 1) (s.length + 1) le_rfl le_rfl
    _ le_rfl ⟨rfl, Nat.lt_succ_self s.length⟩
  rw [show expressionWithin (s.length + 1) s = .done a r from h] at hs
  exact Nat.le_of_lt_succ hs.2.2

theorem expression_eq (s : List Char) :
    expression s = (do gap; expressionShape expression : Reader Expression) s := by
  have hshape : Steady (s.length + 1) (expressionShape (expressionWithin s.length))
      (expressionShape expression) := (steady_expressionWithin_expression le_rfl).expressionShape
  exact ((shrinks_skip _).steady.bind fun _ => hshape).eq (Nat.lt_succ_self _)

theorem length_of_keyword {word : String} {s r : List Char} {a : Unit}
    (h : keyword word s = .done a r) : r.length < s.length := by
  simp only [keyword] at h
  split at h
  case h_1 found t ht =>
    split at h
    · injection h with _ hr
      subst hr
      have hdrop := List.length_dropWhile_le Text.isGap s
      have hlt := consumes_identifier _ _ _ (show identifier (s.dropWhile Text.isGap) = .done found t from ht)
      omega
    · cases h
  all_goals cases h

theorem Consumes.bind {p : Reader α} {f : α → Reader β} (hp : Consumes p)
    (hf : ∀ a, Shrinks (f a)) : Consumes (p >>= f) := by
  intro s b r h
  rw [bind_apply] at h
  cases hs : p s with
  | done a t =>
    rw [hs] at h
    exact lt_of_le_of_lt (hf a t b r h) (hp s a t hs)
  | miss t => simp [hs] at h
  | halt t => simp [hs] at h

theorem Shrinks.bind_consumes {p : Reader α} {f : α → Reader β} (hp : Shrinks p)
    (hf : ∀ a, Consumes (f a)) : Consumes (p >>= f) := by
  intro s b r h
  rw [bind_apply] at h
  cases hs : p s with
  | done a t =>
    rw [hs] at h
    exact lt_of_lt_of_le (hf a t b r h) (hp s a t hs)
  | miss t => simp [hs] at h
  | halt t => simp [hs] at h

theorem steady_mark : Steady n mark mark :=
  (steady_symbol '@').bind fun _ => shrinks_identifier.steady.bind fun _ => steady_pure _

theorem shrinks_miss : Shrinks (miss : Reader α) := fun _ _ _ h => by cases h

theorem steady_modifier : Steady n modifier modifier := by
  refine steady_name.bind fun word => ?_
  cases Modifier.ofKeyword? word with
  | some m => exact steady_pure m
  | none => exact shrinks_miss.steady

theorem steady_bodyKind : Steady n bodyKind bodyKind :=
  ((shrinks_keyword _).steady.bind fun _ => steady_pure _).orElse
    ((shrinks_keyword _).steady.bind fun _ => steady_pure _)

theorem shrinks_typeText : Shrinks typeText := by
  refine Steady.shrinks fun m => (shrinks_skip _).steady.bind fun _ => Shrinks.steady ?_
  intro s a r h
  dsimp only at h
  split at h
  · cases h
  · injection h with _ hr
    exact hr ▸ List.length_dropWhile_le inType s

theorem Consumes.orElse {p q : Reader α} (hp : Consumes p) (hq : Consumes q) :
    Consumes (p <|> q) := by
  intro s a r h
  rw [orElse_apply] at h
  cases hs : p s with
  | done b t => exact hp s a r (by rw [hs]; simpa [hs] using h)
  | miss t => exact hq s a r (by simpa [hs] using h)
  | halt t => simp [hs] at h

theorem consumes_keyword (word : String) (a : α) :
    Consumes (do keyword word; return a : Reader α) :=
  Consumes.bind (fun _ _ _ => length_of_keyword) fun _ => Steady.shrinks fun _ => steady_pure a

theorem consumes_binding (attributes : List Attribute) (modifiers : List Modifier) :
    Consumes (binding attributes modifiers) := by
  have hkeyword : Consumes bindingKeyword :=
    (consumes_keyword "let" true).orElse (consumes_keyword "var" false)
  refine hkeyword.bind fun _ => Steady.shrinks fun m => steady_name.bind fun _ => ?_
  exact (((steady_symbol ':').bind fun _ => shrinks_typeText.steady).optional).bind fun _ =>
    (((steady_symbol '=').bind fun _ => shrinks_expression.steady).optional).bind fun _ =>
      steady_pure _

theorem consumes_bodyKind : Consumes bodyKind :=
  (consumes_keyword _ _).orElse (consumes_keyword _ _)

theorem Steady.membersWithin {p q : Reader Declaration} (h : Steady n p q) (hp : Consumes p)
    (i j : Nat) (hi : n ≤ i) (hj : n ≤ j) : Steady n (membersWithin p i) (membersWithin q j) := by
  induction n generalizing i j with
  | zero =>
    rintro m hm s _ ⟨rfl, hs⟩
    omega
  | succ n ih =>
    obtain ⟨i, rfl⟩ : ∃ k, i = k + 1 := ⟨i - 1, by omega⟩
    obtain ⟨j, rfl⟩ : ∃ k, j = k + 1 := ⟨j - 1, by omega⟩
    rintro m hm s _ ⟨rfl, hs⟩
    have hdrop := List.length_dropWhile_le isMemberGap s
    simp only [Reader.membersWithin]
    split
    case h_1 r hr =>
      rw [hr, List.length_cons] at hdrop
      exact ⟨rfl, rfl, by omega⟩
    case h_2 =>
      have hpq := h m hm ⟨rfl, lt_of_le_of_lt hdrop hs⟩
      rw [bind_apply, bind_apply]
      cases hpd : p (s.dropWhile isMemberGap) with
      | done d r =>
        have hlt := hp _ _ _ hpd
        rw [hpd] at hpq
        cases hqd : q (s.dropWhile isMemberGap) with
        | done d' r' =>
          rw [hqd] at hpq
          obtain ⟨rfl, rfl, -⟩ := hpq
          have hmore := (ih (h.mono n.le_succ) i j (by omega) (by omega)).bind fun more =>
            steady_pure (d :: more)
          have hrest := hmore (m - 1) (by omega) ⟨rfl, (by omega : r.length < m - 1)⟩
          exact hrest.mono fun _ _ hr => ⟨hr.1, by have := hr.2; omega⟩
        | miss r' => simp [hqd, Outcome.Agree] at hpq
        | halt r' => simp [hqd, Outcome.Agree] at hpq
      | miss r =>
        rw [hpd] at hpq
        cases hqd : q (s.dropWhile isMemberGap) <;> simp [hqd, Outcome.Agree] at hpq ⊢
        exact hpq
      | halt r =>
        rw [hpd] at hpq
        cases hqd : q (s.dropWhile isMemberGap) <;> simp [hqd, Outcome.Agree] at hpq ⊢
        exact hpq

/-- The members up to the closing brace, without a bound. -/
def members (inner : Reader Declaration) : Reader (List Declaration) := fun s =>
  membersWithin inner (s.length + 1) s

theorem Steady.members {p q : Reader Declaration} (h : Steady n p q) (hp : Consumes p) :
    Steady n (members p) (members q) := by
  rintro m hm s _ ⟨rfl, hs⟩
  have hpq := (h.mono ((Nat.succ_le_of_lt hs).trans hm)).membersWithin hp (s.length + 1)
    (s.length + 1) le_rfl le_rfl _ le_rfl ⟨rfl, Nat.lt_succ_self _⟩
  exact hpq.mono fun _ _ hr => ⟨hr.1, by have := hr.2; omega⟩

theorem members_of_brace (p : Reader Declaration) {s r : List Char}
    (h : s.dropWhile isMemberGap = '}' :: r) : members p s = .done [] r := by
  simp only [members, Reader.membersWithin, h]

theorem members_of_member {p : Reader Declaration} (hp : Consumes p) {s : List Char}
    (h : (s.dropWhile isMemberGap).head? ≠ some '}') :
    members p s =
      (do
        let member ← p
        let more ← members p
        return member :: more : Reader (List Declaration)) (s.dropWhile isMemberGap) := by
  have hdrop := List.length_dropWhile_le isMemberGap s
  simp only [members, Reader.membersWithin]
  split
  case h_1 r hr => simp [hr] at h
  case h_2 =>
    rw [bind_apply, bind_apply]
    cases hpd : p (s.dropWhile isMemberGap) with
    | done d r =>
      have hlt := hp _ _ _ hpd
      have hmore := (hp.shrinks.steady (n := r.length + 1)).membersWithin hp s.length (r.length + 1)
        (by omega) le_rfl
      have heq : Reader.membersWithin p s.length r = members p r := hmore.eq (Nat.lt_succ_self _)
      simp only [bind_apply, heq]
    | miss r => rfl
    | halt r => rfl

theorem Steady.declarationShape {p q : Reader Declaration} (h : Steady n p q) (hp : Consumes p) :
    Steady (n + 1) (declarationShape p) (declarationShape q) := by
  refine steady_mark.many.bind fun attributes => steady_modifier.many.bind fun modifiers =>
    steady_bodyKind.optional.bind fun kind => ?_
  cases kind with
  | some kind =>
    refine steady_name.bind fun name => Steady.bind (α := List Declaration) ?_ fun _ => steady_pure _
    exact (shrinks_skip _).steady.bind fun _ => Steady.afterChar (h.members hp)
  | none => exact (consumes_binding attributes modifiers).shrinks.steady

theorem consumes_declarationShape {p : Reader Declaration} (hp : Consumes p) :
    Consumes (declarationShape p) := by
  have hmark : Shrinks (many mark) := Steady.shrinks fun _ => steady_mark.many
  have hmodifier : Shrinks (many modifier) := Steady.shrinks fun _ => steady_modifier.many
  refine hmark.bind_consumes fun attributes => hmodifier.bind_consumes fun modifiers => ?_
  intro s d r h
  rw [bind_apply, optional] at h
  cases hkind : bodyKind s with
  | done kind t =>
    rw [hkind] at h
    have hrest : Shrinks (do
        let name ← name
        let found ← memberBlock p
        return .body kind name modifiers attributes found : Reader Declaration) := by
      refine Steady.shrinks fun m => steady_name.bind fun _ =>
        Steady.bind (α := List Declaration) ?_ fun _ => steady_pure _
      exact (shrinks_skip _).steady.bind fun _ =>
        ((hp.shrinks.steady.members hp).afterChar (n := m)).mono m.le_succ
    exact lt_of_le_of_lt (hrest t d r h) (consumes_bodyKind s kind t hkind)
  | miss t =>
    rw [hkind] at h
    exact consumes_binding attributes modifiers s d r h
  | halt t => simp [hkind] at h

theorem consumes_declarationWithin (levels : Nat) : Consumes (declarationWithin levels) := by
  induction levels with
  | zero =>
    intro s d r h
    cases h
  | succ levels ih => exact consumes_declarationShape ih

theorem steady_declarationWithin (k m : Nat) (hk : n ≤ k) (hm : n ≤ m) :
    Steady n (declarationWithin k) (declarationWithin m) := by
  induction n generalizing k m with
  | zero =>
    rintro i hi s _ ⟨rfl, hs⟩
    omega
  | succ n ih =>
    obtain ⟨k, rfl⟩ : ∃ j, k = j + 1 := ⟨k - 1, by omega⟩
    obtain ⟨m, rfl⟩ : ∃ j, m = j + 1 := ⟨m - 1, by omega⟩
    exact (ih k m (by omega) (by omega)).declarationShape (consumes_declarationWithin k)

theorem declarationWithin_eq {levels : Nat} {s : List Char} (h : s.length < levels) :
    declarationWithin levels s = declaration s :=
  (steady_declarationWithin levels (s.length + 1) h le_rfl).eq (Nat.lt_succ_self _)

theorem consumes_declaration : Consumes declaration :=
  fun s => consumes_declarationWithin (s.length + 1) s

theorem steady_declarationWithin_declaration {k : Nat} (hk : n ≤ k) :
    Steady n (declarationWithin k) declaration := by
  rintro m hm s _ ⟨rfl, hs⟩
  rw [← declarationWithin_eq (lt_of_lt_of_le hs (hm.trans hk))]
  exact steady_declarationWithin k k hk hk m hm ⟨rfl, hs⟩

theorem declaration_eq (s : List Char) : declaration s = declarationShape declaration s := by
  have hshape : Steady (s.length + 1) (declarationShape (declarationWithin s.length))
      (declarationShape declaration) :=
    (steady_declarationWithin_declaration le_rfl).declarationShape (consumes_declarationWithin _)
  exact hshape.eq (Nat.lt_succ_self _)

end SourceMacros.Reader

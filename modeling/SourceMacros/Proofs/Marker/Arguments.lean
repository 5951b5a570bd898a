import SourceMacros.Proofs.Marker.Clauses
import Mathlib.Data.List.Induction
import Mathlib.Data.List.Nodup

/-! What clauses come to as arguments, `Settle`: the first that says nothing is reported before the first key
that is given again, and this before a key that is missing. Tokens are arguments just where they are spelled by
a name and a role, `ofTokens_eq_ok`. -/

namespace SourceMacros.Marker

inductive Key where
  | name
  | role
  deriving DecidableEq

def Key.repeated : Key → MarkerError
  | .name => .repeatedName
  | .role => .repeatedRole

namespace Element

def key : Element → Key
  | .name _ => .name
  | .role _ => .role

def name? : Element → Option Token
  | .name spelled => some spelled
  | .role _ => none

def role? : Element → Option Role
  | .name _ => none
  | .role r => some r

end Element

section Gathering

variable {es before after : List Element} {e : Element}

theorem gather_append (known : Gathered) (before after : List Element) :
    gather known (before ++ after) = (gather known before).bind fun known => gather known after := by
  induction before generalizing known with
  | nil => rfl
  | cons e before ih =>
    cases e with
    | name value =>
      simp only [List.cons_append, gather]
      split
      · rfl
      · exact ih _
    | role role =>
      simp only [List.cons_append, gather]
      split
      · rfl
      · exact ih _

def Gathered.of (es : List Element) : Gathered := ⟨es.findSome? Element.name?, es.findSome? Element.role?⟩

theorem mem_map_name : Key.name ∈ es.map Element.key ↔ ∃ spelled, .name spelled ∈ es := by
  rw [List.mem_map]
  constructor
  · rintro ⟨e, he, hkey⟩
    cases e with
    | name spelled => exact ⟨spelled, he⟩
    | role r => cases hkey
  · rintro ⟨spelled, he⟩
    exact ⟨_, he, rfl⟩

theorem mem_map_role : Key.role ∈ es.map Element.key ↔ ∃ role, .role role ∈ es := by
  rw [List.mem_map]
  constructor
  · rintro ⟨e, he, hkey⟩
    cases e with
    | name spelled => cases hkey
    | role role => exact ⟨role, he⟩
  · rintro ⟨role, he⟩
    exact ⟨_, he, rfl⟩

theorem isSome_name_of : (Gathered.of es).name.isSome = true ↔ Key.name ∈ es.map Element.key := by
  rw [Gathered.of, List.findSome?_isSome_iff, List.mem_map]
  refine exists_congr fun e => and_congr_right fun _ => ?_
  cases e <;> simp [Element.name?, Element.key]

theorem isSome_role_of : (Gathered.of es).role.isSome = true ↔ Key.role ∈ es.map Element.key := by
  rw [Gathered.of, List.findSome?_isSome_iff, List.mem_map]
  refine exists_congr fun e => and_congr_right fun _ => ?_
  cases e <;> simp [Element.role?, Element.key]

theorem gather_repeated (h : e.key ∈ es.map Element.key) :
    gather (Gathered.of es) (e :: after) = .error e.key.repeated := by
  cases e with
  | name value =>
    rw [gather, if_pos (isSome_name_of.2 h)]
    rfl
  | role role =>
    rw [gather, if_pos (isSome_role_of.2 h)]
    rfl

theorem gather_fresh (h : e.key ∉ es.map Element.key) :
    gather (Gathered.of es) [e] = .ok (Gathered.of (es ++ [e])) := by
  cases e with
  | name value =>
    have hnone : es.findSome? Element.name? = none := by
      simpa [Gathered.of] using mt isSome_name_of.1 h
    simp [gather, Gathered.of, hnone, Element.name?, Element.role?]
  | role role =>
    have hnone : es.findSome? Element.role? = none := by
      simpa [Gathered.of] using mt isSome_role_of.1 h
    simp [gather, Gathered.of, hnone, Element.name?, Element.role?]

theorem gather_of_nodup (h : (es.map Element.key).Nodup) : gather {} es = .ok (Gathered.of es) := by
  induction es using List.reverseRecOn with
  | nil => rfl
  | append_singleton es e ih =>
    rw [List.map_append, List.map_singleton, ← List.concat_eq_append, List.nodup_concat] at h
    rw [gather_append, ih h.2]
    exact gather_fresh h.1

/-- The keys are different, or there is a first element whose key is given before it. -/
theorem nodup_or_repeated (es : List Element) : (es.map Element.key).Nodup ∨
    ∃ before e after, es = before ++ e :: after ∧ (before.map Element.key).Nodup ∧
      e.key ∈ before.map Element.key := by
  induction es using List.reverseRecOn with
  | nil => exact .inl List.nodup_nil
  | append_singleton es e ih =>
    rcases ih with hnodup | ⟨before, d, after, rfl, hnodup, hmem⟩
    · by_cases hmem : e.key ∈ es.map Element.key
      · exact .inr ⟨es, e, [], rfl, hnodup, hmem⟩
      · left
        rw [List.map_append, List.map_singleton, ← List.concat_eq_append, List.nodup_concat]
        exact ⟨hmem, hnodup⟩
    · exact .inr ⟨before, d, after ++ [e], by simp, hnodup, hmem⟩

section Distinct

variable (hnodup : (es.map Element.key).Nodup)

include hnodup

theorem findSome?_of_mem {β : Type} {f : Element → Option β} {b : β} (hmem : e ∈ es) (hf : f e = some b)
    (hkey : ∀ d, (f d).isSome = true → d.key = e.key) : es.findSome? f = some b := by
  have hfound : (es.findSome? f).isSome = true := List.findSome?_isSome_iff.2 ⟨e, hmem, by simp [hf]⟩
  obtain ⟨b', hb'⟩ := Option.isSome_iff_exists.1 hfound
  obtain ⟨d, hd, hfd⟩ := List.exists_of_findSome?_eq_some hb'
  obtain rfl := List.inj_on_of_nodup_map hnodup hd hmem (hkey d (by simp [hfd]))
  rw [hb', ← hfd, hf]

/-- Two elements are all that have different keys and among them a name and a role. -/
theorem perm_pair {spelled : Token} {role : Role} (hname : .name spelled ∈ es) (hrole : .role role ∈ es) :
    es.Perm [.name spelled, .role role] := by
  have hpair : [Element.name spelled, .role role].Nodup := by simp
  refine (List.perm_ext_iff_of_nodup hnodup.of_map hpair).2 fun e => ?_
  simp only [List.mem_cons, List.not_mem_nil, or_false]
  constructor
  · intro he
    cases e with
    | name value => exact .inl (List.inj_on_of_nodup_map hnodup he hname rfl)
    | role r => exact .inr (List.inj_on_of_nodup_map hnodup he hrole rfl)
  · rintro (rfl | rfl)
    · exact hname
    · exact hrole

theorem ofElements_of_nodup : Arguments.ofElements es =
    match (Gathered.of es).name, (Gathered.of es).role with
    | none, _ => .error .missingName
    | some _, none => .error .missingRole
    | some name, some role => .ok ⟨name, role⟩ := by
  rw [Arguments.ofElements, gather_of_nodup hnodup]
  rfl

theorem ofElements_missingName (hname : Key.name ∉ es.map Element.key) :
    Arguments.ofElements es = .error .missingName := by
  have hnone : (Gathered.of es).name = none := by simpa using mt isSome_name_of.1 hname
  rw [ofElements_of_nodup hnodup, hnone]

theorem ofElements_missingRole (hname : Key.name ∈ es.map Element.key)
    (hrole : Key.role ∉ es.map Element.key) : Arguments.ofElements es = .error .missingRole := by
  obtain ⟨spelled, hsome⟩ := Option.isSome_iff_exists.1 (isSome_name_of.2 hname)
  have hnone : (Gathered.of es).role = none := by simpa using mt isSome_role_of.1 hrole
  rw [ofElements_of_nodup hnodup, hsome, hnone]

end Distinct

theorem ofElements_repeated (hnodup : (before.map Element.key).Nodup) (hmem : e.key ∈ before.map Element.key) :
    Arguments.ofElements (before ++ e :: after) = .error e.key.repeated := by
  rw [Arguments.ofElements, gather_append, gather_of_nodup hnodup]
  change (gather (Gathered.of before) (e :: after)).bind _ = _
  rw [gather_repeated hmem]
  rfl

theorem ofElements_of_perm {spelled : Token} {role : Role} (h : es.Perm [.name spelled, .role role]) :
    Arguments.ofElements es = .ok ⟨spelled, role⟩ := by
  have hnodup : (es.map Element.key).Nodup := (h.map Element.key).nodup_iff.2 (by simp [Element.key])
  have hname : (Gathered.of es).name = some spelled := by
    refine findSome?_of_mem hnodup (e := .name spelled) (h.mem_iff.2 (by simp)) rfl fun d hd => ?_
    cases d with
    | name value => rfl
    | role r => cases hd
  have hrole : (Gathered.of es).role = some role := by
    refine findSome?_of_mem hnodup (e := .role role) (h.mem_iff.2 (by simp)) rfl fun d hd => ?_
    cases d with
    | name value => cases hd
    | role r => rfl
  rw [ofElements_of_nodup hnodup, hname, hrole]

end Gathering

/-- What clauses come to as arguments. The first clause that says nothing counts before all that they say
together, then the first key that is given again, then a name that is missing, then a role. -/
inductive Settle : List Clause → Except MarkerError Arguments → Prop
  | fault {before after : List Clause} {c : Clause} {es : List Element} {error : MarkerError}
      (hsay : Say before es) (hfault : c.Says (.error error)) :
      Settle (before ++ c :: after) (.error error)
  | repeated {cs : List Clause} {before after : List Element} {e : Element}
      (hsay : Say cs (before ++ e :: after)) (hnodup : (before.map Element.key).Nodup)
      (hmem : e.key ∈ before.map Element.key) : Settle cs (.error e.key.repeated)
  | missingName {cs : List Clause} {es : List Element} (hsay : Say cs es)
      (hnodup : (es.map Element.key).Nodup) (hname : Key.name ∉ es.map Element.key) :
      Settle cs (.error .missingName)
  | missingRole {cs : List Clause} {es : List Element} (hsay : Say cs es)
      (hnodup : (es.map Element.key).Nodup) (hname : Key.name ∈ es.map Element.key)
      (hrole : Key.role ∉ es.map Element.key) : Settle cs (.error .missingRole)
  | both {cs : List Clause} {es : List Element} {spelled : Token} {role : Role} (hsay : Say cs es)
      (hperm : es.Perm [.name spelled, .role role]) : Settle cs (.ok ⟨spelled, role⟩)

section Settling

variable {cs : List Clause} {tokens : List Token}

theorem exists_settle (cs : List Clause) : ∃ settled, Settle cs settled := by
  rcases say_or_fault cs with ⟨es, hsay⟩ | ⟨before, c, after, es, error, rfl, hsay, hfault⟩
  · rcases nodup_or_repeated es with hnodup | ⟨before, e, after, rfl, hnodup, hmem⟩
    · by_cases hname : Key.name ∈ es.map Element.key
      · by_cases hrole : Key.role ∈ es.map Element.key
        · obtain ⟨spelled, hspelled⟩ := mem_map_name.1 hname
          obtain ⟨role, hrole⟩ := mem_map_role.1 hrole
          exact ⟨_, .both hsay (perm_pair hnodup hspelled hrole)⟩
        · exact ⟨_, .missingRole hsay hnodup hname hrole⟩
      · exact ⟨_, .missingName hsay hnodup hname⟩
    · exact ⟨_, .repeated hsay hnodup hmem⟩
  · exact ⟨_, .fault hsay hfault⟩

theorem ofTokens_of_settle {settled : Except MarkerError Arguments} (hspells : Spells cs tokens)
    (h : Settle cs settled) : Arguments.ofTokens tokens = settled := by
  have hread {es : List Element} (hsay : Say cs es) :
      Arguments.ofTokens tokens = Arguments.ofElements es := by
    rw [Arguments.ofTokens, elements_of_spells hspells hsay]
    rfl
  cases h with
  | fault hsay hfault =>
    obtain ⟨rest, hleads⟩ := hspells.leads
    rw [Arguments.ofTokens, elements_of_fault hleads hsay hfault]
    rfl
  | repeated hsay hnodup hmem => rw [hread hsay, ofElements_repeated hnodup hmem]
  | missingName hsay hnodup hname => rw [hread hsay, ofElements_missingName hnodup hname]
  | missingRole hsay hnodup hname hrole => rw [hread hsay, ofElements_missingRole hnodup hname hrole]
  | both hsay hperm => rw [hread hsay, ofElements_of_perm hperm]

/-- Tokens are arguments just where clauses spell them that say a name and a role, in either order. -/
theorem ofTokens_eq_ok {a : Arguments} : Arguments.ofTokens tokens = .ok a ↔
    ∃ cs es, Spells cs tokens ∧ Say cs es ∧ es.Perm [.name a.name, .role a.role] := by
  constructor
  · intro h
    obtain ⟨es, helements, -⟩ := except_bind_eq_ok.1 h
    obtain ⟨cs, hspells, hsay⟩ := elements_eq_ok.1 helements
    obtain ⟨settled, hsettle⟩ := exists_settle cs
    obtain rfl := (ofTokens_of_settle hspells hsettle).symm.trans h
    cases hsettle with
    | both hsay hperm => exact ⟨cs, _, hspells, hsay, hperm⟩
  · rintro ⟨cs, es, hspells, hsay, hperm⟩
    exact ofTokens_of_settle hspells (.both hsay hperm)

end Settling

end SourceMacros.Marker

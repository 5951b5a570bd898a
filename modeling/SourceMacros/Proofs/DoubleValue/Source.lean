import SourceMacros.Proofs.Expression.Layout
import SourceMacros.Proofs.Registry.Source

/-! `doubleValue` from source to source: an integer literal with a value stands in the expansion as it is
spelled, whatever its label, and every other literal and every other number of arguments is refused,
`expandSource_doubleValue`. -/

namespace SourceMacros

open Text Reader Nesting

namespace Registry

variable {v : Invocation} {source : String}

/-- Expansion of a layout of a call is expansion of the call, if the call does not nest too deeply. -/
theorem result_expandSource_layout (r : Registry) (context : Context) (h : v.WellFormed)
    (hs : v.Layout source.toList) :
    (v.levels ≤ limit → (r.expandSource source context).result = (r.expandInvocation v context).result) ∧
      (limit < v.levels → ∃ place, (r.expandSource source context).result =
        .error (.unreadable (.unreadable (.tooDeep place)))) := by
  obtain ⟨hsign, htrimmed⟩ := h.trimmed_layout hs
  obtain ⟨hread, hdeep⟩ := h.parse_layout hs
  rw [expandSource_of_trimmed r context htrimmed, expandTrimmed, if_pos hsign]
  refine ⟨fun hlevels => ?_, fun hlevels => ?_⟩
  · rw [hread.2 hlevels]
    rfl
  · obtain ⟨place, hplace⟩ := hdeep hlevels
    rw [hplace]
    exact ⟨place, rfl⟩

/-- A source that is read as a call without the blanks around it is expanded as the call. -/
theorem result_expandSource_of_parse (r : Registry) (context : Context)
    (h : Invocation.parse (String.ofList (trim source.toList)) = .ok v) :
    (r.expandSource source context).result = (r.expandInvocation v context).result := by
  obtain ⟨-, t, hread, -⟩ := read_eq_ok.1 h
  obtain ⟨g, u, hg, htrim, -, -⟩ := invocation_eq_done hread
  rw [String.toList_ofList] at htrim
  have hsign : (trim source.toList).head? = some '#' := by
    rw [← (trimmed_trim source.toList).dropWhile_isGap, htrim, hg.dropWhile_append]
    rfl
  rw [expandSource, expandTrimmed, if_pos (by rwa [String.toList_ofList]), h]
  rfl

end Registry

namespace Expander

variable (name : String) (context : Context)

theorem result_doubleValue_single (a : Argument) : (doubleValue ⟨name, [a]⟩ context).result =
    if a.value.integerValue?.isSome then .ok (.callOf "Double" [.plain a.value])
    else .error (.type name "an integer literal" a.value.render) := by
  unfold doubleValue
  dsimp only
  split <;> rfl

theorem result_doubleValue_arity {arguments : List Argument} (h : arguments.length ≠ 1) :
    (doubleValue ⟨name, arguments⟩ context).result = .error (.arity name 1 arguments.length) := by
  unfold doubleValue
  dsimp only
  split
  · exact absurd rfl h
  · rfl

end Expander

theorem LabelSpelled.isIdentifier {label : Option String} {u : List Char} (h : LabelSpelled label u) :
    ∀ name ∈ label, Text.isIdentifier name = true := by
  rintro name rfl
  obtain ⟨_, _, _, -, -, -, hname, -⟩ := h
  exact hname

section Literals

variable {name : String} {label : Option String} {u : List Char} {t : String}
  (hname : Text.isIdentifier name = true) (hu : LabelSpelled label u) (ht : isIntegerText t.toList = true)

include hname hu ht

theorem spelled_callOf_integer : (Expression.callOf name [⟨label, .integer t⟩]).Spelled
    (fun text v _ => v = text.toList) (name.toList ++ '(' :: (u ++ (t.toList ++ [')']))) [] := by
  refine ⟨name, _, rfl, hname, rfl, .inr ⟨u, t.toList, [')'], hu, rfl, ⟨rfl, ht⟩, rfl, ?_⟩⟩
  exact .inl ⟨rfl, closing_single ')'⟩

theorem wellFormed_callOf_integer : (Expression.callOf name [⟨label, .integer t⟩]).WellFormed :=
  ⟨⟨name, rfl, hname⟩, hu.isIdentifier, ht, trivial⟩

end Literals

namespace Registry

variable (context : Context)

theorem result_expandInvocation_doubleValue (arguments : List Argument) :
    (standard.expandInvocation ⟨"doubleValue", arguments⟩ context).result =
      (Expander.doubleValue ⟨"doubleValue", arguments⟩ context).result.map Expression.render := by
  rw [result_expandInvocation]
  rfl

theorem result_expandInvocation_arity {arguments : List Argument} (h : arguments.length ≠ 1) :
    (standard.expandInvocation ⟨"doubleValue", arguments⟩ context).result =
      .error (.arity "doubleValue" 1 arguments.length) := by
  rw [result_expandInvocation_doubleValue, Expander.result_doubleValue_arity _ _ h]
  rfl

theorem render_callOf_double (t : String) :
    (Expression.callOf "Double" [.plain (.integer t)]).render = "Double(" ++ t ++ ")" := by
  rw [← String.toList_inj, Expression.toList_render]
  simp [Expression.callOf, Expression.written, commaSeparated, argumentsWritten, Argument.plain]

theorem result_expandSource_integer {label : Option String} {u t : String}
    (hu : LabelSpelled label u.toList) (ht : isIntegerText t.toList = true) :
    (standard.expandSource ("#doubleValue(" ++ u ++ t ++ ")") context).result =
      if (Expression.integer t).integerValue?.isSome then .ok ("Double(" ++ t ++ ")")
      else .error (.type "doubleValue" "an integer literal" t) := by
  have hname : isIdentifier "doubleValue" = true := by decide
  have hlayout : (⟨"doubleValue", [⟨label, .integer t⟩]⟩ : Invocation).Layout
      ("#doubleValue(" ++ u ++ t ++ ")").toList :=
    ⟨_, by simp, spelled_callOf_integer hname hu ht⟩
  have hwell : (⟨"doubleValue", [⟨label, .integer t⟩]⟩ : Invocation).WellFormed :=
    ⟨hname, hu.isIdentifier, ht, trivial⟩
  have hlevels : (⟨"doubleValue", [⟨label, .integer t⟩]⟩ : Invocation).levels ≤ limit := by
    change max 0 0 + 1 ≤ limit
    decide
  rw [(result_expandSource_layout standard context hwell hlayout).1 hlevels,
    result_expandInvocation_doubleValue, Expander.result_doubleValue_single]
  split
  · exact congrArg Except.ok (render_callOf_double t)
  · have hrender : (Expression.integer t).render = t := String.ofList_toList
    rw [hrender]
    rfl

theorem parse_callOf_double {t : String} (ht : isIntegerText t.toList = true) :
    Expression.parse ("Double(" ++ t ++ ")") = .ok (.callOf "Double" [.plain (.integer t)]) := by
  have hname : isIdentifier "Double" = true := by decide
  have hbare : LabelSpelled none [] := Gap.nil
  have hspelled : (Expression.callOf "Double" [.plain (.integer t)]).Spelled
      (fun text v _ => v = text.toList) ("Double(" ++ t ++ ")").toList [] := by
    simpa [Argument.plain] using spelled_callOf_integer hname hbare ht
  have hlevels : (Expression.callOf "Double" [.plain (.integer t)]).levels ≤ limit := by
    change max 0 0 + 1 ≤ limit
    decide
  exact ((wellFormed_callOf_integer hname hbare ht).parse_layout hspelled).1.2 hlevels

/-- One integer literal, labelled or not, stands in the call of `Double` as it is spelled just where it has a
value. Any other number of arguments is refused with the number, or for its nesting. -/
theorem expandSource_doubleValue (context : Context) :
    (∀ (label : Option String) (u t : String), LabelSpelled label u.toList → isIntegerText t.toList = true →
      ((standard.expandSource ("#doubleValue(" ++ u ++ t ++ ")") context).result =
          .ok ("Double(" ++ t ++ ")") ↔ (Expression.integer t).integerValue?.isSome = true) ∧
        ((Expression.integer t).integerValue? = none →
          (standard.expandSource ("#doubleValue(" ++ u ++ t ++ ")") context).result =
            .error (.type "doubleValue" "an integer literal" t)) ∧
        Expression.parse ("Double(" ++ t ++ ")") = .ok (.callOf "Double" [.plain (.integer t)])) ∧
    (∀ (source : String) (arguments : List Argument), arguments.length ≠ 1 →
      Invocation.parse (String.ofList (trim source.toList)) = .ok ⟨"doubleValue", arguments⟩ →
        (standard.expandSource source context).result =
          .error (.arity "doubleValue" 1 arguments.length)) ∧
    ∀ (source : String) (arguments : List Argument), arguments.length ≠ 1 →
      ArgumentsShaped StandsAlone arguments →
      (⟨"doubleValue", arguments⟩ : Invocation).Layout source.toList →
        ((standard.expandSource source context).result = .error (.arity "doubleValue" 1 arguments.length) ↔
          (⟨"doubleValue", arguments⟩ : Invocation).levels ≤ limit) ∧
        (limit < (⟨"doubleValue", arguments⟩ : Invocation).levels → ∃ place,
          (standard.expandSource source context).result =
            .error (.unreadable (.unreadable (.tooDeep place)))) := by
  refine ⟨fun label u t hu ht => ⟨?_, fun hnone => ?_, parse_callOf_double ht⟩,
    fun source arguments hne hparse => ?_, fun source arguments hne hshaped hlayout => ?_⟩
  · rw [result_expandSource_integer context hu ht]
    split
    case isTrue hsome => exact iff_of_true rfl hsome
    case isFalse hnone => exact iff_of_false nofun hnone
  · rw [result_expandSource_integer context hu ht, if_neg (by simp [hnone])]
  · rw [result_expandSource_of_parse standard context hparse, result_expandInvocation_arity context hne]
  · have hname : isIdentifier "doubleValue" = true := by decide
    have hwell : (⟨"doubleValue", arguments⟩ : Invocation).WellFormed := ⟨hname, hshaped⟩
    obtain ⟨hread, hdeep⟩ := result_expandSource_layout standard context hwell hlayout
    refine ⟨⟨fun harity => ?_, fun hlevels => ?_⟩, hdeep⟩
    · by_contra hlevels
      obtain ⟨place, hplace⟩ := hdeep (Nat.lt_of_not_le hlevels)
      rw [hplace] at harity
      cases harity
    · rw [hread hlevels, result_expandInvocation_arity context hne]

/-- A labelled hexadecimal literal, a literal with a letter too many, no arguments, and two with a comma
after them. -/
theorem expandSource_doubleValue_label :
    (standard.expandSource "#doubleValue(of: 0x1F)" {}).result = .ok "Double(0x1F)" ∧
    (standard.expandSource "#doubleValue(of: 1_x)" {}).result =
      .error (.type "doubleValue" "an integer literal" "1_x") ∧
    (standard.expandSource "\n#doubleValue" {}).result = .error (.arity "doubleValue" 1 0) ∧
    (standard.expandSource "#doubleValue(1,\n2,)" {}).result = .error (.arity "doubleValue" 1 2) := by
  have hlabel : LabelSpelled (some "of") "of: ".toList :=
    ⟨[], [], [' '], Gap.nil, by simp, gap_space, by decide, rfl⟩
  have hline : Gap ['\n'] := List.all_eq_true.1 (by decide : ['\n'].all isGap = true)
  obtain ⟨hsingle, hcount, hlayout⟩ := expandSource_doubleValue {}
  have hshaped : ArgumentsShaped StandsAlone [.plain (.integer "1"), .plain (.integer "2")] :=
    ⟨by simp, by rw [Expression.Shaped]; decide, by simp, by rw [Expression.Shaped]; decide, trivial⟩
  have hlast : ArgumentsSpelled (fun text v _ => v = text.toList) [.plain (.integer "2")] "\n2,)".toList [] :=
    ⟨['\n'], ['2'], [',', ')'], hline, rfl, ⟨rfl, by decide⟩, rfl,
      .inl ⟨rfl, [], Gap.nil, .inr ⟨[], Gap.nil, rfl⟩⟩⟩
  have harguments : ArgumentsSpelled (fun text v _ => v = text.toList)
      [.plain (.integer "1"), .plain (.integer "2")] "1,\n2,)".toList [] :=
    ⟨[], ['1'], ",\n2,)".toList, Gap.nil, rfl, ⟨rfl, by decide⟩, rfl, .inr ⟨[], _, Gap.nil, rfl, hlast⟩⟩
  have htwo : (⟨"doubleValue", [.plain (.integer "1"), .plain (.integer "2")]⟩ : Invocation).Layout
      "#doubleValue(1,\n2,)".toList := by
    refine ⟨"doubleValue(1,\n2,)".toList, rfl, "doubleValue", "1,\n2,)".toList, rfl, ?_, rfl, .inr harguments⟩
    decide
  have hsome := (hsingle (some "of") "of: " "0x1F" hlabel (by decide)).1.2 (by decide +kernel)
  have hnone := (hsingle (some "of") "of: " "1_x" hlabel (by decide)).2.1 (by decide +kernel)
  simp only [String.reduceAppend] at hsome hnone
  exact ⟨hsome, hnone, hcount "\n#doubleValue" [] (by decide) (by decide +kernel),
    (hlayout _ _ (by decide) hshaped htwo).1.2 (by decide)⟩

/-- Calls of `f` in each other, `n + 1` of them. -/
def nestedCalls : Nat → Expression
  | 0 => .callOf "f" []
  | n + 1 => .callOf "f" [.plain (nestedCalls n)]

theorem wellFormed_nestedCalls (n : Nat) : (nestedCalls n).WellFormed := by
  have hname : isIdentifier "f" = true := by decide
  induction n with
  | zero => exact ⟨⟨"f", rfl, hname⟩, trivial⟩
  | succ n ih => exact ⟨⟨"f", rfl, hname⟩, by simp, ih, trivial⟩

theorem levels_nestedCalls (n : Nat) : (nestedCalls n).levels = n + 1 := by
  induction n with
  | zero => rfl
  | succ n ih =>
    have hstep : (nestedCalls (n + 1)).levels = max (nestedCalls n).levels 0 + 1 := rfl
    rw [hstep, ih, Nat.max_zero]

/-- An argument that is read by itself is one level too deep inside of the call, and the arguments are not
counted. -/
theorem expandSource_doubleValue_nested :
    ArgumentsShaped StandsAlone [.plain (nestedCalls 31), .plain (.integer "1")] ∧
    Expression.parse (nestedCalls 31).render = .ok (nestedCalls 31) ∧
    (⟨"doubleValue", [.plain (nestedCalls 31), .plain (.integer "1")]⟩ : Invocation).render =
      "#doubleValue(f(f(f(f(f(f(f(f(f(f(f(f(f(f(f(f(f(f(f(f(f(f(f(f(f(f(f(f(f(f(f(f()))))))))))))))))))))))))))))))), 1)" ∧
    ∃ place, (standard.expandSource
      "#doubleValue(f(f(f(f(f(f(f(f(f(f(f(f(f(f(f(f(f(f(f(f(f(f(f(f(f(f(f(f(f(f(f(f()))))))))))))))))))))))))))))))), 1)"
        {}).result = .error (.unreadable (.unreadable (.tooDeep place))) := by
  have hone : (Expression.integer "1").Shaped StandsAlone := by
    rw [Expression.Shaped]
    decide
  have hshaped : ArgumentsShaped StandsAlone [.plain (nestedCalls 31), .plain (.integer "1")] :=
    ⟨by simp, wellFormed_nestedCalls 31, by simp, hone, trivial⟩
  have hwritten : (nestedCalls 31).Spelled (fun text v _ => v = text.toList) (nestedCalls 31).render.toList [] := by
    rw [Expression.toList_render]
    exact Expression.spelled_written _ [] (wellFormed_nestedCalls 31) fun _ _ => rfl
  have hlevels : (nestedCalls 31).levels = limit := levels_nestedCalls 31
  have hrender : (⟨"doubleValue", [.plain (nestedCalls 31), .plain (.integer "1")]⟩ : Invocation).render =
      "#doubleValue(f(f(f(f(f(f(f(f(f(f(f(f(f(f(f(f(f(f(f(f(f(f(f(f(f(f(f(f(f(f(f(f()))))))))))))))))))))))))))))))), 1)" := by cbv
  refine ⟨hshaped, ((wellFormed_nestedCalls 31).parse_layout hwritten).1.2 hlevels.le, hrender, ?_⟩
  have hcall : (⟨"doubleValue", [.plain (nestedCalls 31), .plain (.integer "1")]⟩ : Invocation).WellFormed :=
    ⟨by decide, hshaped⟩
  rw [← hrender]
  refine (result_expandSource_layout standard {} hcall ?_).2 ?_
  · rw [Invocation.toList_render]
    exact hcall.layout_written
  · -- The list of arguments is one level more.
    have hstep : ∀ e : Expression, (⟨"doubleValue", [.plain e, .plain (.integer "1")]⟩ : Invocation).levels =
        max e.levels 0 + 1 := fun _ => rfl
    rw [hstep, hlevels]
    decide

end Registry
end SourceMacros

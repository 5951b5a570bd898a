import SourceMacros.Proofs.Reader.Reparse

/-! No blank stands at either end of what is written for a call or for a declaration that is read off its
own text, so trimming that text leaves it as it is. -/

namespace SourceMacros

open Text Reader

theorem isBlank_of_startsWord {k : Char} (h : startsWord k = true) : isBlank k = false := by
  rcases Bool.or_eq_true_iff.1 h with h | h
  · rw [eq_of_beq h]
    decide
  · exact isBlank_of_continuesIdentifier (continuesIdentifier_of_starts h)

theorem trimmed_integer {text : List Char} (h : isIntegerText text = true) : Trimmed text := by
  refine trimmed_of_forall fun k hk => ?_
  rcases eq_or_continues_of_mem h hk with rfl | hk
  · decide
  · exact isBlank_of_continuesIdentifier hk

theorem Expression.Shaped.ended {e : Expression} (h : e.Shaped Kept) : Ended e.written := by
  cases e with
  | integer text => exact (trimmed_integer h).ended
  | string segments => exact ended_append_singleton ('"' :: segmentsWritten segments) (by decide)
  | dictionary entries =>
    cases entries with
    | nil => exact ended_append_singleton ['[', ':'] (by decide)
    | cons entry entries =>
      exact ended_append_singleton ('[' :: commaSeparated (entriesWritten (entry :: entries))) (by decide)
  | identifier name => exact (trimmed_identifier h).ended
  | call callee arguments =>
    have hlist : Ended (('(' :: commaSeparated (argumentsWritten arguments)) ++ [')']) :=
      ended_append_singleton _ (by decide)
    exact hlist.append (by simp) callee.written
  | other text => exact (Kept.trimmed h).ended

theorem ended_typeWritten {o : Option String} (h : ∀ text ∈ o, IsTypeText text) {s : List Char}
    (hs : Ended s) : Ended (s ++ typeWritten o) := by
  cases o with
  | none => simpa [typeWritten] using hs
  | some text =>
    obtain ⟨hnonempty, -, -, hended⟩ := h text rfl
    have htext : Ended ([':', ' '] ++ text.toList) := hended.append hnonempty _
    simpa [typeWritten] using htext.append (by simp) s

theorem ended_initializerWritten {o : Option Expression} (h : ∀ e ∈ o, e.Shaped Kept) {s : List Char}
    (hs : Ended s) : Ended (s ++ initializerWritten o) := by
  cases o with
  | none => simpa [initializerWritten] using hs
  | some e =>
    obtain ⟨k, t, hwritten, -⟩ := Expression.Shaped.head (h e rfl)
    have hvalue : Ended ([' ', '=', ' '] ++ e.written) :=
      (Expression.Shaped.ended (h e rfl)).append (by simp [hwritten]) _
    simpa [initializerWritten] using hvalue.append (by simp) s

theorem Declaration.Shaped.trimmed {d : Declaration} (h : d.Shaped Kept IsTypeText) :
    Trimmed d.written := by
  constructor
  · obtain ⟨k, t, hwritten, hk⟩ := d.head_written 0
    intro c hc
    rw [Declaration.written, hwritten] at hc
    obtain rfl := Option.some.inj hc
    exact isBlank_of_startsWord hk
  · cases d with
    | binding b =>
      obtain ⟨-, hname, htype, hinit⟩ := h
      obtain ⟨k, t, hk, -⟩ := exists_cons_of_isIdentifier hname
      have hfront := (trimmed_identifier hname).ended.append (by simp [hk])
        ((leadWords b.attributes b.modifiers ++ [b.keyword.toList]).flatMap fun word => word ++ [' '])
      have hall := ended_initializerWritten hinit (ended_typeWritten htype hfront)
      rw [Declaration.written, Declaration.writtenAt, Binding.written_eq]
      simpa using hall
    | body kind name modifiers attributes members =>
      have hbrace := ended_append_singleton (leadWritten attributes modifiers ++ kind.keyword.toList ++
        ' ' :: (name.toList ++ ' ' :: '{' :: '\n' :: (membersWrittenAt 1 members ++ indentWritten 0)))
        (c := '}') (by decide)
      simpa [Declaration.written, Declaration.writtenAt] using hbrace

theorem Invocation.trimmed_written (v : Invocation) : Trimmed v.written := by
  refine ⟨fun c hc => ?_, ?_⟩
  · obtain rfl : '#' = c := Option.some.inj hc
    decide
  · have hparen : Ended (('#' :: (v.name.toList ++
        '(' :: commaSeparated (argumentsWritten v.arguments))) ++ [')']) :=
      ended_append_singleton _ (by decide)
    simpa [Invocation.written] using hparen

theorem Declaration.trimmed_written {d : Declaration} (h : Declaration.parse d.render = .ok d) :
    Trimmed d.written :=
  Declaration.Shaped.trimmed ((Declaration.kept_of_parse h).typed ((Declaration.rereads_iff h).1 h).2)

end SourceMacros

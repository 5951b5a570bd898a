import SourceMacros.Reader.Nesting

/-! Why a text is not source, or not the description of a type. -/

namespace SourceMacros

inductive UnreadableCause where
  | endOfInput (offset : Nat)
  /-- `near` shows the text that was met. -/
  | unexpected (offset : Nat) (near : String)
  | tooDeep (offset : Nat)
  /-- A reason in the words of a host. -/
  | stated (reason : String)
  deriving DecidableEq

/-- Offsets count bytes of UTF-8. -/
def UnreadableCause.reason : UnreadableCause → String
  | .endOfInput offset => s!"unexpected end of input at offset {offset}"
  | .unexpected offset near => s!"unexpected input at offset {offset} near `{near}`"
  | .tooDeep offset => s!"nesting deeper than {Nesting.limit} levels at offset {offset}"
  | .stated reason => reason

inductive SyntaxError where
  | invalidType (text : String)
  | unreadable (cause : UnreadableCause)
  deriving DecidableEq

def SyntaxError.message : SyntaxError → String
  | .invalidType text => s!"invalid type format: `{text}`"
  | .unreadable cause => s!"parse error: {cause.reason}"

theorem UnreadableCause.reason_endOfInput (k : Nat) :
    (endOfInput k).reason = "unexpected end of input at offset " ++ toString k := rfl

theorem UnreadableCause.reason_unexpected (k : Nat) (near : String) : (unexpected k near).reason =
    "unexpected input at offset " ++ toString k ++ " near `" ++ near ++ "`" := rfl

theorem UnreadableCause.reason_tooDeep (k : Nat) :
    (tooDeep k).reason = "nesting deeper than 32 levels at offset " ++ toString k := rfl

theorem SyntaxError.message_unreadable (cause : UnreadableCause) :
    (unreadable cause).message = "parse error: " ++ cause.reason := rfl

end SourceMacros

import SourceMacros.Context
import SourceMacros.Declaration
import SourceMacros.Expansion
import SourceMacros.Expression.Literal
import SourceMacros.Invocation
import SourceMacros.Text.Uppercase
import SourceMacros.TypeDescriptor

/-! The macro that makes a struct of a name and a dictionary of field names and types. -/

namespace SourceMacros.Expander

/-- The value of a string literal; what keeps it from having one is noted. -/
def stringValue (e : Expression) : Expansion (Option String) := do
  match e.obstacle? with
  | some obstacle => Expansion.note (.foundObstacle obstacle.render)
  | none => pure ()
  return e.stringValue?

/-- A field's name and type; the type is looked at only if there is a name. -/
def fieldOf (entry : Entry) : Expansion (Option (String × String)) := do
  match ← stringValue entry.key with
  | none => return none
  | some name => return (← stringValue entry.value).map (name, ·)

def dropped (structName : String) (entry : Entry) : Event :=
  .droppedEntry structName entry.key.render entry.key.kindName entry.value.render
    entry.value.kindName

def fieldType (policy : FieldTypePolicy) (field text : String) : Except ExpansionError String :=
  match policy with
  | .raw => .ok text
  | .descriptor =>
    match TypeDescriptor.parse text with
    | .ok type => .ok type.render
    | .error _ => .error (.invalidType field text)

def fieldsOf (policy : FieldTypePolicy) (structName : String) :
    List Entry → Expansion (List Declaration)
  | [] => return []
  | entry :: entries => do
    match ← fieldOf entry with
    | none =>
      Expansion.note (dropped structName entry)
      fieldsOf policy structName entries
    | some (field, text) =>
      let type ← Expansion.ofExcept (fieldType policy field text)
      return .field field type :: (← fieldsOf policy structName entries)

def startsUppercase (name : String) : Bool :=
  match name.toList with
  | [] => false
  | c :: _ => Text.isUppercase c

def generateStruct (invocation : Invocation) (context : Context) :
    Expansion (List Declaration) :=
  let refuse reason : Expansion (List Declaration) :=
    .fail (.argument invocation.name reason)
  match invocation.arguments with
  | [name, fields] => do
    match ← stringValue name.value with
    | none => refuse s!"struct name must be a string literal, found {name.value.render}"
    | some structName =>
      match fields.value with
      | .dictionary entries =>
        if startsUppercase structName then
          let members ← fieldsOf context.config.fieldTypes structName entries
          if members.isEmpty then .fail (.emptyFields invocation.name structName)
          else
            Expansion.note (.expandedStruct structName members.length)
            return [.structOf structName members]
        else .fail (.naming structName)
      | other => refuse s!"fields must be a dictionary literal, found {other.render}"
  | arguments =>
    refuse
      s!"expected a struct name and a fields dictionary, found {arguments.length} argument(s)"

end SourceMacros.Expander

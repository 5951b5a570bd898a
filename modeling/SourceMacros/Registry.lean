import SourceMacros.Declaration.Printer
import SourceMacros.Expander.DoubleValue
import SourceMacros.Expander.GenerateStruct
import SourceMacros.Expander.Singleton
import SourceMacros.Reader.Source
import SourceMacros.Text.ByteOrder
import SourceMacros.Text.Quoted

/-! Tables of macros by name, and the expansion of calls, declarations and source by a table. -/

namespace SourceMacros

/-- What a macro does, by its role. -/
inductive Expander where
  | expression (expand : Invocation → Context → Expansion Expression)
  | declaration (expand : Invocation → Context → Expansion (List Declaration))
  | peer (expand : Attribute → Declaration → Context → Expansion (List Declaration))

def Expander.role : Expander → Role
  | .expression _ => .expression
  | .declaration _ => .declaration
  | .peer _ => .peer

structure MacroEntry where
  name : String
  expander : Expander

namespace MacroEntry

def role (e : MacroEntry) : Role := e.expander.role

def describe (e : MacroEntry) : String :=
  "MacroEntry \x7b name: " ++ Text.quoted e.name ++ ", role: " ++ e.role.title ++ " \x7d"

end MacroEntry

structure Registry where
  entries : List MacroEntry
  nodup : (entries.map MacroEntry.name).Nodup

namespace Registry

def empty : Registry := ⟨[], List.nodup_nil⟩

def get? (r : Registry) (name : String) : Option MacroEntry :=
  r.entries.find? (·.name == name)

def contains (r : Registry) (name : String) : Bool := (r.get? name).isSome

def size (r : Registry) : Nat := r.entries.length

def isEmpty (r : Registry) : Bool := r.entries.isEmpty

/-- The names in the order of their bytes. -/
def names (r : Registry) : List String :=
  (r.entries.map MacroEntry.name).mergeSort Text.precedes

theorem get?_eq_none {r : Registry} {name : String} :
    r.get? name = none ↔ name ∉ r.entries.map MacroEntry.name := by
  simp only [get?, List.find?_eq_none, beq_iff_eq, List.mem_map, not_exists, not_and]

def add (r : Registry) (e : MacroEntry) : Except ExpansionError Registry :=
  match h : r.get? e.name with
  | none => .ok ⟨e :: r.entries, List.nodup_cons.2 ⟨get?_eq_none.1 h, r.nodup⟩⟩
  | some _ => .error (.duplicateMacro e.name)

/-- The table of a list of macros, of which no two may have the same name. -/
def ofList (entries : List MacroEntry) : Except ExpansionError Registry :=
  entries.foldlM add empty

def standardEntries : List MacroEntry :=
  [⟨"doubleValue", .expression Expander.doubleValue⟩,
    ⟨"generateStruct", .declaration Expander.generateStruct⟩,
    ⟨"Singleton", .peer Expander.singleton⟩]

def standard : Registry := ⟨standardEntries, by decide⟩

/-- What the macro of a name does. -/
def find (r : Registry) (name : String) : Expansion Expander :=
  match r.get? name with
  | some e => .done e.expander
  | none => .fail (.unknownMacro name)

def expandExpression (r : Registry) (invocation : Invocation) (context : Context) :
    Expansion Expression := do
  match ← r.find invocation.name with
  | .expression expand => expand invocation context
  | other => .fail (.roleMismatch invocation.name .expression other.role)

def expandDeclaration (r : Registry) (invocation : Invocation) (context : Context) :
    Expansion (List Declaration) := do
  match ← r.find invocation.name with
  | .declaration expand => expand invocation context
  | other => .fail (.roleMismatch invocation.name .declaration other.role)

def expandPeer (r : Registry) (mark : Attribute) (target : Declaration) (context : Context) :
    Expansion (List Declaration) := do
  match ← r.find mark.name with
  | .peer expand => expand mark target context
  | other => .fail (.roleMismatch mark.name .peer other.role)

/-- The declaration without the attributes that are macros of the table. -/
def withoutMacros (r : Registry) (d : Declaration) : Declaration :=
  d.keepAttributes fun a => !r.contains a.name

/-- A call becomes the text of what its macro gives. -/
def expandInvocation (r : Registry) (invocation : Invocation) (context : Context) :
    Expansion String := do
  match ← r.find invocation.name with
  | .expression expand => return (← expand invocation context).render
  | .declaration expand => return Declaration.renderAll (← expand invocation context)
  | .peer _ => .fail (.roleMismatch invocation.name .declaration .peer)

/-- What the macros of some attributes add beside a declaration. -/
def expandPeers (r : Registry) (target : Declaration) (context : Context) :
    List Attribute → Expansion (List Declaration)
  | [] => return []
  | mark :: marks => do
    Expansion.note (.expandingPeer mark.render target.name)
    let peers ← r.expandPeer mark target context
    let others ← expandPeers r target context marks
    return peers.map r.withoutMacros ++ others

/-- A declaration becomes the text of itself and of what is added beside it. -/
def expandAttached (r : Registry) (d : Declaration) (context : Context) : Expansion String := do
  let peers ← r.expandPeers d context (d.attributes.filter fun a => r.contains a.name)
  return Declaration.renderAll (r.withoutMacros d :: peers)

def expandTrimmed (r : Registry) (source : String) (context : Context) : Expansion String :=
  if source.toList.head? = some '#' then do
    let invocation ← Expansion.ofExcept ((Invocation.parse source).mapError .unreadable)
    r.expandInvocation invocation context
  else do
    let d ← Expansion.ofExcept ((Declaration.parse source).mapError .unreadable)
    r.expandAttached d context

/-- Source that begins with `#` is a call, and any other a declaration. -/
def expandSource (r : Registry) (source : String) (context : Context) : Expansion String :=
  r.expandTrimmed (String.ofList (Text.trim source.toList)) context

end Registry
end SourceMacros

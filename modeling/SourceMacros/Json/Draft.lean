import SourceMacros.Json.Basic

/-! What can be seen of a JSON text up to the place where it stops being one. Whoever looks for a value
of some shape walks a draft from left to right, so that the first fault in the text decides, be it of
form or of shape. -/

namespace SourceMacros.Json

inductive Fault where
  | ended
  | malformed
  | shape
  deriving DecidableEq

/-- A place where the text stops: what is wrong for one who reads the value there, for one who only
steps over it, and for one who looks for a word. -/
structure Breach where
  read : Fault
  skip : Fault
  word : Fault
  deriving DecidableEq

def Breach.of (fault : Fault) : Breach := ⟨fault, fault, fault⟩

inductive Stop where
  | closed
  /-- `comma` tells whether a comma announced a part that is not there, and `name` what is wrong for one
  who looks for a name there and not for a part. -/
  | broken (comma : Bool) (breach : Breach) (name : Fault)
  deriving DecidableEq

namespace Stop

def read : Stop → Except Fault Unit
  | .closed => .ok ()
  | .broken _ breach _ => .error breach.read

def skip : Stop → Except Fault Unit
  | .closed => .ok ()
  | .broken _ breach _ => .error breach.skip

def hasComma : Stop → Bool
  | .closed => false
  | .broken comma _ _ => comma

end Stop

inductive Draft where
  | null
  | bool (value : Bool)
  | integer (value : Int)
  | decimal (text : String)
  | string (value : String)
  /-- A number that is too great, or a string with half a character: it can only be stepped over. -/
  | loose
  | breach (here : Breach)
  | array (items : List Draft) (stop : Stop)
  /-- A member without a name has one that can only be stepped over. -/
  | object (members : List (Option String × Draft)) (stop : Stop)

namespace Draft

mutual

def skip : Draft → Except Fault Unit
  | .breach here => .error here.skip
  | .array items stop => do
    skipItems items
    stop.skip
  | .object members stop => do
    skipMembers members
    stop.skip
  | _ => .ok ()

def skipItems : List Draft → Except Fault Unit
  | [] => .ok ()
  | d :: ds => do
    d.skip
    skipItems ds

def skipMembers : List (Option String × Draft) → Except Fault Unit
  | [] => .ok ()
  | (_, d) :: ds => do
    d.skip
    skipMembers ds

end

mutual

/-- The value, if it is complete and nests at most `levels` deep. -/
def value : Nat → Draft → Except Fault Json
  | _, .null => .ok .null
  | _, .bool b => .ok (.bool b)
  | _, .integer n => .ok (.integer n)
  | _, .decimal text => .ok (.decimal text)
  | _, .string text => .ok (.string text)
  | _, .loose => .error .malformed
  | _, .breach here => .error here.read
  | 0, .array _ _ => .error .malformed
  | levels + 1, .array items stop => do
    let items ← itemValues levels items
    stop.read
    return .array items
  | 0, .object _ _ => .error .malformed
  | levels + 1, .object members stop => do
    let members ← memberValues levels members
    stop.read
    return .object members

def itemValues (levels : Nat) : List Draft → Except Fault (List Json)
  | [] => .ok []
  | d :: ds => do
    let item ← d.value levels
    return item :: (← itemValues levels ds)

def memberValues (levels : Nat) : List (Option String × Draft) → Except Fault (List (String × Json))
  | [] => .ok []
  | (none, _) :: _ => .error .malformed
  | (some name, d) :: ds => do
    let member ← d.value levels
    return (name, member) :: (← memberValues levels ds)

end

/-- What is wrong with a value that has not the shape looked for: its own fault, if it has one. -/
def misfit : Draft → Fault
  | .loose => .malformed
  | .breach here => here.read
  | _ => .shape

end Draft

mutual

def draft : Json → Draft
  | .null => .null
  | .bool b => .bool b
  | .integer n => .integer n
  | .decimal text => .decimal text
  | .string text => .string text
  | .array items => .array (itemDrafts items) .closed
  | .object members => .object (memberDrafts members) .closed

def itemDrafts : List Json → List Draft
  | [] => []
  | j :: js => j.draft :: itemDrafts js

def memberDrafts : List (String × Json) → List (Option String × Draft)
  | [] => []
  | (name, j) :: js => (some name, j.draft) :: memberDrafts js

end

end SourceMacros.Json

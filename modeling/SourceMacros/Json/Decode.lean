import SourceMacros.Json.Scan

/-! Looking for values of a given shape: in the draft of a text, where the fault that comes first
decides, and in a complete value, where there are no faults but those of shape. -/

namespace SourceMacros.Json

/-! In a complete value. -/

/-- The place of a name among names; it may also be given as a number. -/
def choice? (names : List String) : Json → Option Nat
  | .string name => names.idxOf? name
  | .integer n => if 0 ≤ n && n < names.length then some n.toNat else none
  | _ => none

/-- The place of a name among names, spelled as a string or as the only member of an object that holds
nothing. -/
def word? (names : List String) : Json → Option Nat
  | .string name => names.idxOf? name
  | .object [(name, .null)] => names.idxOf? name
  | .object [(name, .object [])] => names.idxOf? name
  | _ => none

def string? : Json → Option String
  | .string text => some text
  | _ => none

def bool? : Json → Option Bool
  | .bool b => some b
  | _ => none

def list? {α : Type} (decode : Json → Option α) : Json → Option (List α)
  | .array items => items.mapM decode
  | _ => none

def optional? {α : Type} (decode : Json → Option α) : Json → Option (Option α)
  | .null => some none
  | j => (decode j).map some

/-- Each of the names with the value it has in an object; none may occur twice. -/
def lookUp (names : List String) (members : List (String × Json)) : Option (List (Option Json)) :=
  if names.all fun name => members.countP (·.1 == name) ≤ 1 then
    some (names.map fun name => members.lookup name)
  else none

/-- The values of a record's fields, which come by name or, all of them, by order. -/
def fields? (names : List String) : Json → Option (List (Option Json))
  | .object members => lookUp names members
  | .array items => if items.length = names.length then some (items.map some) else none
  | _ => none

/-- A value with a tag among its members, or at its front: the tag and the others. -/
def tagged? (tag : String) (names : List String) : Json → Option (Nat × Json)
  | .object members => do
    let [some name] ← lookUp [tag] members | none
    return (← choice? names name, .object (members.filter (·.1 != tag)))
  | .array (name :: items) => do
    return (← choice? names name, .array items)
  | _ => none

/-! In a draft. -/

namespace Draft

def readString : Draft → Except Fault String
  | .string text => .ok text
  | d => .error d.misfit

def readBool : Draft → Except Fault Bool
  | .bool b => .ok b
  | d => .error d.misfit

def readWord32 : Draft → Except Fault UInt32
  | .integer n => if 0 ≤ n && n < Int.pow 2 32 then .ok n.toNat.toUInt32 else .error .shape
  | d => .error d.misfit

def readOptional {α : Type} (decode : Draft → Except Fault α) : Draft → Except Fault (Option α)
  | .null => .ok none
  | d => do return some (← decode d)

def enter : Nat → Except Fault Nat
  | 0 => .error .malformed
  | levels + 1 => .ok levels

def readList {α : Type} (decode : Nat → Draft → Except Fault α) (levels : Nat) :
    Draft → Except Fault (List α)
  | .array items stop => do
    let levels ← enter levels
    let values ← items.mapM (decode levels)
    stop.read
    return values
  | d => .error d.misfit

def finish (items : List Draft) (stop : Stop) : Except Fault Unit :=
  if items.isEmpty && !stop.hasComma then stop.read else .error .malformed

def index (names : List String) (name : String) : Except Fault Nat :=
  match names.idxOf? name with
  | some i => .ok i
  | none => .error .shape

/-- The place of a name among names, where nothing but a string is looked at. -/
def readChoice (names : List String) (d : Draft) : Except Fault Nat := do index names (← d.readString)

def readNothing : Draft → Except Fault Unit
  | .null => .ok ()
  | d => .error d.misfit

/-- The place of a name among names, spelled as a string or as the only member of an object that holds
`null`; other values have no place here at all. -/
def readWord (names : List String) (levels : Nat) : Draft → Except Fault Nat
  | .string name => index names name
  | .loose => .error .malformed
  | .breach here => .error here.word
  | .object [] (.broken _ _ word) => do
    let _ ← enter levels
    throw word
  | .object [] .closed => .error .malformed
  | .object ((none, _) :: _) _ => .error .malformed
  | .object ((some name, value) :: others) stop => do
    let _ ← enter levels
    let i ← index names name
    readNothing value
    if others.isEmpty && !stop.hasComma then stop.read else .error .malformed
    return i
  | _ => .error .malformed

/-- A field of a record: its name, and how its value goes into what is known of the record. -/
structure Field (σ : Type) where
  name : String
  put : Nat → Draft → σ → Except Fault σ

variable {σ : Type}

/-- Members by name; a name that is no field's is stepped over, and a field's comes once. -/
def members (fields : List (Field σ)) (levels : Nat) :
    List String → List (Option String × Draft) → σ → Except Fault σ
  | _, [], known => .ok known
  | _, (none, _) :: _, _ => .error .malformed
  | seen, (some name, d) :: ds, known =>
    match fields.find? (·.name == name) with
    | none => do
      d.skip
      members fields levels seen ds known
    | some field =>
      if seen.contains name then .error .shape
      else do
        let known ← field.put levels d known
        members fields levels (name :: seen) ds known

/-- Fields by order; `lenient` allows the last of them to be absent. -/
def sequence (lenient : Bool) (levels : Nat) :
    List (Field σ) → List Draft → Stop → σ → Except Fault σ
  | [], items, stop, known => do
    finish items stop
    return known
  | _ :: _, [], stop, known => do
    stop.read
    if lenient then return known else throw .shape
  | field :: fields, d :: ds, stop, known => do
    let known ← field.put levels d known
    sequence lenient levels fields ds stop known

def readRecord (fields : List (Field σ)) (lenient : Bool) (start : σ) (levels : Nat) :
    Draft → Except Fault σ
  | .object ds stop => do
    let levels ← enter levels
    let known ← members fields levels [] ds start
    stop.read
    return known
  | .array items stop => do
    let levels ← enter levels
    sequence lenient levels fields items stop start
  | d => .error d.misfit

def required {α : Type} : Option α → Except Fault α
  | some a => .ok a
  | none => .error .shape

/-- The members of a tagged object: the tag is looked at where it stands, all else is kept. -/
def taggedMembers (tag : String) (names : List String) (levels : Nat) :
    Option Nat → List (Option String × Draft) → Except Fault (Option Nat × List (String × Json))
  | found, [] => .ok (found, [])
  | _, (none, _) :: _ => .error .malformed
  | found, (some name, d) :: ds =>
    if name = tag then
      match found with
      | some _ => .error .shape
      | none => do taggedMembers tag names levels (some (← readChoice names d)) ds
    else do
      let j ← d.value levels
      let (found, others) ← taggedMembers tag names levels found ds
      return (found, (name, j) :: others)

def readTagged (tag : String) (names : List String) (levels : Nat) : Draft → Except Fault (Nat × Json)
  | .object ds stop => do
    let levels ← enter levels
    let (found, others) ← taggedMembers tag names levels none ds
    stop.read
    return (← required found, .object others)
  | .array [] stop => do
    let _ ← enter levels
    stop.read
    throw .shape
  | .array (d :: ds) stop => do
    let levels ← enter levels
    let i ← readChoice names d
    let items ← itemValues levels ds
    stop.read
    return (i, .array items)
  | d => .error d.misfit

end Draft
end SourceMacros.Json

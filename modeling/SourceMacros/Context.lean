import SourceMacros.Config

/-! What a host tells about the place where a macro is used. -/

namespace SourceMacros

open Json (Fault Draft)

structure Location where
  file : String
  line : UInt32
  column : UInt32
  deriving DecidableEq

namespace Location

def render (l : Location) : String := s!"{l.file}:{l.line.toNat}:{l.column.toNat}"

def toJson (l : Location) : Json :=
  .object [("file", .string l.file), ("line", .integer l.line.toNat),
    ("column", .integer l.column.toNat)]

structure Known where
  file : Option String := none
  line : Option UInt32 := none
  column : Option UInt32 := none

def fields : List (Draft.Field Known) :=
  [⟨"file", fun _ d known => do return { known with file := some (← d.readString) }⟩,
    ⟨"line", fun _ d known => do return { known with line := some (← d.readWord32) }⟩,
    ⟨"column", fun _ d known => do return { known with column := some (← d.readWord32) }⟩]

def ofDraft (levels : Nat) (d : Draft) : Except Fault Location := do
  let known ← d.readRecord fields false {} levels
  return ⟨← Draft.required known.file, ← Draft.required known.line, ← Draft.required known.column⟩

end Location

structure Context where
  config : Config := {}
  location : Option Location := none
  deriving DecidableEq

end SourceMacros

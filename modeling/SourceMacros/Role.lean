import SourceMacros.Json.Decode

/-! Where a macro may be used, and what it turns into. -/

namespace SourceMacros

open Json (Fault Draft)

inductive Role where
  | expression
  | declaration
  | peer
  deriving DecidableEq

namespace Role

def all : List Role := [.expression, .declaration, .peer]

def name : Role → String
  | .expression => "expression"
  | .declaration => "declaration"
  | .peer => "peer"

def title : Role → String
  | .expression => "Expression"
  | .declaration => "Declaration"
  | .peer => "Peer"

def names : List String := all.map name

def toJson (role : Role) : Json := .string role.name

def ofDraft (levels : Nat) (d : Draft) : Except Fault Role := do
  Draft.required all[← d.readWord names levels]?

end Role
end SourceMacros

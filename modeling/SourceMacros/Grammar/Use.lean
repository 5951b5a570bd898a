import SourceMacros.Grammar.Attribute

/-! What an item uses of others. -/

namespace SourceMacros.Grammar

/-- A new name, which may be an underscore. -/
def newName : Grammar Unit := do
  if !(← acceptKeyword "_") then
    let _ ← name

def useNameTail (parts : Parts) : Grammar Bool := do
  let _ ← word
  if ← acceptSign "::" then parts.useTree false
  else
    if ← acceptKeyword "as" then
      if ← sees (fun ts => isName ts || isWord "_" ts) then newName
      else expected "identifier or underscore"
    return false

def useGroupWithin (parts : Parts) (allowsRoot : Bool) : Nat → Grammar Bool
  | 0 => return false
  | n + 1 => do
    if ← atEnd then return false
    let isRooted ← if allowsRoot then acceptSign "::" else pure false
    let holdsRooted ← parts.useTree (allowsRoot && !isRooted)
    if ← atEnd then return isRooted || holdsRooted
    sign ","
    let more ← useGroupWithin parts allowsRoot n
    return isRooted || holdsRooted || more

def useTree (parts : Parts) (allowsRoot : Bool) : Grammar Bool :=
  firstOf [.of [.name, .keyword "self", .keyword "super", .keyword "crate", .keyword "try"]
      (useNameTail parts),
    .of [.sign "*"] (do sign "*"; return false),
    .of [.group .brace] (within .brace do
      useGroupWithin parts allowsRoot ((← front).length + 1))]

def useItem (parts : Parts) : Grammar ItemShape := do
  keyword "use"
  let isRooted ← acceptSign "::"
  let holdsRooted ← parts.useTree (!isRooted)
  sign ";"
  return if holdsRooted then .verbatim else .other

def externCrateItem : Grammar ItemShape := do
  keyword "extern"
  keyword "crate"
  if !(← acceptKeyword "self") then
    let _ ← name
  if ← acceptKeyword "as" then newName
  sign ";"
  return .other

end SourceMacros.Grammar

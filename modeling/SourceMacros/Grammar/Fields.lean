import SourceMacros.Grammar.Bound

/-! Fields and variants, and what is declared with them. -/

namespace SourceMacros.Grammar

def namedFields (parts : Parts) : Grammar Unit := within .brace (commaList parts.namedField)

/-- Whether the type of a field without a name is given by fields of its own. -/
def startsNestedFields (ts : List Token) : Bool :=
  isWord "struct" ts || isWord "union" ts && isBraced (skip 1 ts)

def namedField (parts : Parts) : Grammar Unit := do
  let _ ← attributes parts
  let _ ← visibility
  let isUnnamed ← acceptKeyword "_"
  if !isUnnamed then
    let _ ← name
  sign ":"
  if isUnnamed && (← sees startsNestedFields) then
    raw do
      let _ ← word
      namedFields parts
  else
    let _ ← parts.type true

def orderedField (parts : Parts) : Grammar Unit := do
  let _ ← attributes parts
  let _ ← visibility
  let _ ← parts.type true

def orderedFields (parts : Parts) : Grammar Unit :=
  within .parenthesis (commaList (orderedField parts))

def orderedEnd (parts : Parts) : Grammar FieldShape := do
  orderedFields parts
  let final : Choice FieldShape := .of [.sign ";"] (do sign ";"; return .fields)
  firstOf [.of [.keyword "where"] (do let _ ← whereClause parts; firstOf [final]), final]

def structBody (parts : Parts) : Grammar FieldShape := do
  let ends : List (Choice FieldShape) :=
    [.of [.group .brace] (do namedFields parts; return .fields),
      .of [.sign ";"] (do sign ";"; return .unit)]
  firstOf (.of [.keyword "where"] (do let _ ← whereClause parts; firstOf ends) ::
    .of [.group .parenthesis] (orderedEnd parts) :: ends)

def structItem (parts : Parts) : Grammar ItemShape := do
  keyword "struct"
  let struct ← name
  let isGeneric ← parameters parts
  return .struct struct isGeneric (← structBody parts)

def variant (parts : Parts) : Grammar Unit := do
  let _ ← attributes parts
  let _ ← visibility
  let _ ← name
  if ← peek (.group .brace) then namedFields parts
  else if ← peek (.group .parenthesis) then orderedFields parts
  if ← acceptSign "=" then
    let _ ← parts.expression true

def enumItem (parts : Parts) : Grammar ItemShape := do
  keyword "enum"
  let _ ← name
  let _ ← parameters parts
  let _ ← whereClause parts
  within .brace (commaList (variant parts))
  return .other

def unionItem (parts : Parts) : Grammar ItemShape := do
  keyword "union"
  let _ ← name
  let _ ← parameters parts
  let _ ← whereClause parts
  namedFields parts
  return .other

end SourceMacros.Grammar

import SourceMacros.Grammar.Fields
import SourceMacros.Grammar.Member
import SourceMacros.Grammar.Use

/-! Items. -/

namespace SourceMacros.Grammar

/-- A function, which is written as it stands if its body is left out. -/
def functionItem (parts : Parts) : Grammar ItemShape := do
  return if ← function parts then .verbatim else .other

def foreignBlock (parts : Parts) (isPublic : Bool) : Grammar ItemShape := do
  if isPublic then throw (.expected (Kind.keyword "extern").title)
  let _ ← acceptKeyword "unsafe"
  abi
  membersOf parts (foreignMember parts)
  return .other

def externItem (parts : Parts) (isPublic : Bool) : Grammar ItemShape :=
  firstAfter 1 [.of [.keyword "crate"] externCrateItem,
    .of [.group .brace] (foreignBlock parts isPublic),
    .of [.stringLiteral] (firstAfter 2 [.of [.group .brace] (foreignBlock parts isPublic)])]

/-- A variable of the program; without a type or a value it is written as it stands. -/
def staticItem (parts : Parts) : Grammar ItemShape := do
  keyword "static"
  let _ ← acceptKeyword "mut"
  let _ ← name
  if ← acceptSign "=" then
    let _ ← parts.expression true
    sign ";"
    return .verbatim
  sign ":"
  let _ ← parts.type true
  if ← acceptSign ";" then return .verbatim
  sign "="
  let _ ← parts.expression true
  sign ";"
  return .other

def markedItem (parts : Parts) : Grammar ItemShape :=
  rawIf (· = .verbatim) do
    let _ ← attributes parts
    parts.item

def modItem (parts : Parts) : Grammar ItemShape := do
  let _ ← acceptKeyword "unsafe"
  keyword "mod"
  if !(← acceptKeyword "try") then
    let _ ← name
  firstOf [.of [.sign ";"] (sign ";"),
    .of [.group .brace] (membersOf parts (discard (markedItem parts)))]
  return .other

def traitRest (parts : Parts) : Grammar ItemShape := do
  colonBounds (listUntil (fun ts => isWord "where" ts || isBraced ts) "+" (markableBound parts))
  let _ ← whereClause parts
  membersOf parts (traitMember parts)
  return .other

def traitAliasRest (parts : Parts) : Grammar ItemShape := do
  sign "="
  let _ ← listUntil (fun ts => isWord "where" ts || isSign ";" ts) "+"
    (discard (parts.bound false false))
  let _ ← whereClause parts
  sign ";"
  return .other

def traitStart (parts : Parts) : Grammar Unit := do
  keyword "trait"
  let _ ← name
  let _ ← parameters parts

def traitItem (parts : Parts) : Grammar ItemShape := do
  traitStart parts
  firstOf [.of [.group .brace, .sign ":", .keyword "where"] (traitRest parts),
    .of [.sign "="] (traitAliasRest parts)]

def qualifiedTraitItem (parts : Parts) : Grammar ItemShape := do
  let _ ← acceptKeyword "unsafe"
  let _ ← acceptKeyword "auto"
  traitStart parts
  traitRest parts

def implMark : Grammar Bool := do
  let isMarked ← sees fun ts =>
    isWord "const" ts || isSign "?" ts && isWord "const" (skip 1 ts)
  if isMarked then
    let _ ← acceptSign "?"
    keyword "const"
  return isMarked

def implItem (parts : Parts) (isPublic : Bool) : Grammar ItemShape := do
  let _ ← acceptKeyword "default"
  let _ ← acceptKeyword "unsafe"
  keyword "impl"
  if ← sees startsParameters then
    let _ ← parameters parts
  let isConst ← implMark
  let isNegative ← sees fun ts => isSign "!" ts && !isBraced (skip 1 ts)
  if isNegative then sign "!"
  let shape ← parts.type true
  let isOfTrait ← acceptKeyword "for"
  if isOfTrait then
    let _ ← parts.type true
  else if isNegative then refuse .negativeInherent
  let _ ← whereClause parts
  membersOf parts (implMember parts)
  return if isPublic || isConst || isOfTrait && shape ≠ .name && shape ≠ .path then .verbatim
    else .other

def macroItem : Grammar ItemShape := do
  keyword "macro"
  let _ ← name
  let definition : Choice Unit := .of [.group .brace] (discard (need (.group .brace)))
  firstOf [.of [.group .parenthesis] (do
      let _ ← need (.group .parenthesis)
      firstOf [definition]), definition]
  return .verbatim

def callItem : Grammar ItemShape := do
  barePath
  sign "!"
  if !(← acceptKeyword "try") then
    let _ ← accept .name
  endOfCall (← anyGroup)
  return .other

def unsafeItem (parts : Parts) (isPublic : Bool) : Grammar ItemShape :=
  firstAfter 1 [
    ⟨[.keyword "trait", .keyword "auto"],
      fun ts => isWord "trait" ts || isWord "auto" ts && isWord "trait" (skip 1 ts),
      qualifiedTraitItem parts⟩,
    .of [.keyword "impl"] (implItem parts isPublic),
    .of [.keyword "extern"] (foreignBlock parts isPublic),
    .of [.keyword "mod"] (modItem parts)]

/-- The items, in the order in which people are told of them. -/
def itemChoices (parts : Parts) (isPublic : Bool) : List (Choice ItemShape) :=
  ([⟨[.keyword "fn"], startsFunction false, functionItem parts⟩,
    .of [.keyword "extern"] (externItem parts isPublic),
    .of [.keyword "use"] (useItem parts),
    .of [.keyword "static"] (staticItem parts),
    .of [.keyword "const"] (do return if ← constant parts then .other else .verbatim),
    .of [.keyword "unsafe"] (unsafeItem parts isPublic),
    .of [.keyword "mod"] (modItem parts),
    .of [.keyword "type"] (do return if ← typeAlias parts true false then .other else .verbatim),
    .of [.keyword "struct"] (structItem parts),
    .of [.keyword "enum"] (enumItem parts),
    ⟨[.keyword "union"], fun ts => isWord "union" ts && isName (skip 1 ts), unionItem parts⟩,
    .of [.keyword "trait"] (traitItem parts),
    ⟨[.keyword "auto"], fun ts => isWord "auto" ts && isWord "trait" (skip 1 ts),
      qualifiedTraitItem parts⟩,
    ⟨[.keyword "impl", .keyword "default"],
      fun ts => isWord "impl" ts || isWord "default" ts && !isSign "!" (skip 1 ts),
      implItem parts isPublic⟩,
    .of [.keyword "macro"] macroItem] : List (Choice ItemShape)) ++
    if isPublic then [] else [.of callStarts callItem]

def item (parts : Parts) : Grammar ItemShape := do
  let isPublic ← visibility
  firstOf (itemChoices parts isPublic)

end SourceMacros.Grammar

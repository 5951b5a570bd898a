import SourceMacros.Expression

/-! Declarations: constants and variables, and the struct and class bodies that hold them. -/

namespace SourceMacros

inductive Modifier where
  | «public»
  | «private»
  | fileprivate
  | internal
  | «open»
  | static
  | final
  deriving DecidableEq

namespace Modifier

def all : List Modifier := [.public, .private, .fileprivate, .internal, .open, .static, .final]

def keyword : Modifier → String
  | .public => "public"
  | .private => "private"
  | .fileprivate => "fileprivate"
  | .internal => "internal"
  | .open => "open"
  | .static => "static"
  | .final => "final"

def ofKeyword? (word : String) : Option Modifier := all.find? (·.keyword == word)

end Modifier

/-- A mark `@name` in front of a declaration; macros attach to declarations by it. -/
structure Attribute where
  name : String
  deriving DecidableEq

def Attribute.render (a : Attribute) : String := "@" ++ a.name

/-- A constant or variable; the text of its type is not looked into. -/
structure Binding where
  name : String
  typeText : Option String := none
  initializer : Option Expression := none
  isConstant : Bool := false
  modifiers : List Modifier := []
  attributes : List Attribute := []
  deriving DecidableEq

inductive BodyKind where
  | struct
  | reference
  deriving DecidableEq

namespace BodyKind

def keyword : BodyKind → String
  | .struct => "struct"
  | .reference => "class"

end BodyKind

inductive Declaration where
  | binding (declared : Binding)
  | body (kind : BodyKind) (name : String) (modifiers : List Modifier)
      (attributes : List Attribute) (members : List Declaration)

instance : Inhabited Declaration := ⟨.body .struct "" [] [] []⟩

namespace Declaration

def name : Declaration → String
  | .binding b => b.name
  | .body _ name _ _ _ => name

def kindName : Declaration → String
  | .binding _ => "variable"
  | .body kind _ _ _ _ => kind.keyword

def attributes : Declaration → List Attribute
  | .binding b => b.attributes
  | .body _ _ _ attributes _ => attributes

def members : Declaration → List Declaration
  | .binding _ => []
  | .body _ _ _ _ members => members

/-- Drops the attributes that fail the test; members keep theirs. -/
def keepAttributes (keep : Attribute → Bool) : Declaration → Declaration
  | .binding b => .binding { b with attributes := b.attributes.filter keep }
  | .body kind name modifiers attributes members =>
    .body kind name modifiers (attributes.filter keep) members

@[simp] theorem attributes_keepAttributes (keep : Attribute → Bool) (d : Declaration) :
    (d.keepAttributes keep).attributes = d.attributes.filter keep := by
  cases d <;> rfl

/-- A variable of the given type. -/
def field (name typeText : String) : Declaration :=
  .binding { name := name, typeText := some typeText }

def structOf (name : String) (members : List Declaration) : Declaration :=
  .body .struct name [] [] members

/-- The public static constant that holds the one instance of a type. -/
def accessor (typeName name : String) (executor : Option String) : Declaration :=
  .binding
    { name := name
      initializer := some (.callOf typeName [])
      isConstant := true
      modifiers := [.public, .static]
      attributes := executor.toList.map Attribute.mk }

end Declaration

mutual

def Declaration.same : Declaration → Declaration → Bool
  | .binding a, .binding b => a == b
  | .body k n ms as ds, .body l m ns bs es =>
    k == l && n == m && ms == ns && as == bs && sameDeclarations ds es
  | _, _ => false

def sameDeclarations : List Declaration → List Declaration → Bool
  | [], [] => true
  | d :: ds, e :: es => d.same e && sameDeclarations ds es
  | _, _ => false

end

mutual

theorem Declaration.same_iff : (a b : Declaration) → (a.same b = true ↔ a = b)
  | .binding a, b => by cases b <;> simp [Declaration.same]
  | .body k n ms as ds, b => by
    cases b <;> simp [Declaration.same, sameDeclarations_iff ds, and_assoc]

theorem sameDeclarations_iff : (a b : List Declaration) → (sameDeclarations a b = true ↔ a = b)
  | [], b => by cases b <;> simp [sameDeclarations]
  | d :: ds, [] => by simp [sameDeclarations]
  | d :: ds, e :: es => by
    simp [sameDeclarations, Declaration.same_iff d, sameDeclarations_iff ds]

end

instance : DecidableEq Declaration := fun a b => decidable_of_iff _ (Declaration.same_iff a b)

end SourceMacros

/-! Expressions as far as macros look into them: literals, names and calls, and verbatim text for
every other shape. -/

namespace SourceMacros

mutual

inductive Expression where
  /-- An integer literal, kept as it is spelled. -/
  | integer (text : String)
  | string (segments : List Segment)
  | dictionary (entries : List Entry)
  | identifier (name : String)
  | call (callee : Expression) (arguments : List Argument)
  /-- Any other expression, kept as it is spelled. -/
  | other (text : String)

/-- A part of a string literal; escapes in the text are kept as they are spelled. -/
inductive Segment where
  | text (value : String)
  | interpolation (value : Expression)

structure Entry where
  key : Expression
  value : Expression

structure Argument where
  label : Option String
  value : Expression

end

instance : Inhabited Expression := ⟨.other ""⟩

namespace Expression

def ofText (text : String) : Expression := .string [.text text]

def ofPairs (pairs : List (Expression × Expression)) : Expression :=
  .dictionary (pairs.map fun p => ⟨p.1, p.2⟩)

def callOf (name : String) (arguments : List Argument) : Expression :=
  .call (.identifier name) arguments

def kindName : Expression → String
  | .integer _ => "integer literal"
  | .string _ => "string literal"
  | .dictionary _ => "dictionary literal"
  | .identifier _ => "identifier"
  | .call _ _ => "function call"
  | .other _ => "expression"

def isInteger : Expression → Bool
  | .integer _ => true
  | _ => false

end Expression

def Argument.plain (value : Expression) : Argument := ⟨none, value⟩

mutual

def Expression.same : Expression → Expression → Bool
  | .integer s, .integer t => s == t
  | .string ss, .string ts => sameSegments ss ts
  | .dictionary es, .dictionary fs => sameEntries es fs
  | .identifier s, .identifier t => s == t
  | .call c as, .call d bs => c.same d && sameArguments as bs
  | .other s, .other t => s == t
  | _, _ => false

def sameSegments : List Segment → List Segment → Bool
  | [], [] => true
  | .text s :: ss, .text t :: ts => s == t && sameSegments ss ts
  | .interpolation e :: ss, .interpolation f :: ts => e.same f && sameSegments ss ts
  | _, _ => false

def sameEntries : List Entry → List Entry → Bool
  | [], [] => true
  | ⟨k, v⟩ :: es, ⟨l, w⟩ :: fs => k.same l && v.same w && sameEntries es fs
  | _, _ => false

def sameArguments : List Argument → List Argument → Bool
  | [], [] => true
  | ⟨l, v⟩ :: as, ⟨m, w⟩ :: bs => l == m && v.same w && sameArguments as bs
  | _, _ => false

end

mutual

theorem Expression.same_iff : (a b : Expression) → (a.same b = true ↔ a = b)
  | .integer s, b => by cases b <;> simp [Expression.same]
  | .string ss, b => by cases b <;> simp [Expression.same, sameSegments_iff ss]
  | .dictionary es, b => by cases b <;> simp [Expression.same, sameEntries_iff es]
  | .identifier s, b => by cases b <;> simp [Expression.same]
  | .call c as, b => by
    cases b <;> simp [Expression.same, Expression.same_iff c, sameArguments_iff as]
  | .other s, b => by cases b <;> simp [Expression.same]

theorem sameSegments_iff : (a b : List Segment) → (sameSegments a b = true ↔ a = b)
  | [], b => by cases b <;> simp [sameSegments]
  | .text s :: ss, [] => by simp [sameSegments]
  | .text s :: ss, t :: ts => by cases t <;> simp [sameSegments, sameSegments_iff ss]
  | .interpolation e :: ss, [] => by simp [sameSegments]
  | .interpolation e :: ss, t :: ts => by
    cases t <;> simp [sameSegments, sameSegments_iff ss, Expression.same_iff e]

theorem sameEntries_iff : (a b : List Entry) → (sameEntries a b = true ↔ a = b)
  | [], b => by cases b <;> simp [sameEntries]
  | ⟨k, v⟩ :: es, [] => by simp [sameEntries]
  | ⟨k, v⟩ :: es, ⟨l, w⟩ :: fs => by
    simp [sameEntries, Expression.same_iff k, Expression.same_iff v, sameEntries_iff es]

theorem sameArguments_iff : (a b : List Argument) → (sameArguments a b = true ↔ a = b)
  | [], b => by cases b <;> simp [sameArguments]
  | ⟨l, v⟩ :: as, [] => by simp [sameArguments]
  | ⟨l, v⟩ :: as, ⟨m, w⟩ :: bs => by
    simp [sameArguments, Expression.same_iff v, sameArguments_iff as]

end

instance : DecidableEq Expression := fun a b => decidable_of_iff _ (Expression.same_iff a b)

instance : DecidableEq Argument := fun a b =>
  decidable_of_iff (a.label = b.label ∧ a.value = b.value) (by cases a; cases b; simp)

end SourceMacros

import SourceMacros.Grammar.Error
import SourceMacros.Token.Kind

/-! Readers of tokens. What is read is written anew on the way: the punctuation of one sign holds together
and no other does. -/

namespace SourceMacros

/-- A place in the tokens of a group. -/
structure Cursor where
  rest : List Token
  written : List Token := []
  /-- The first group that was left before its end. -/
  stray : Option Delimiter := none

abbrev Grammar := StateT Cursor (Except GrammarError)

namespace Grammar

variable {α : Type}

def front : Grammar (List Token) := return (← get).rest

def sees (test : List Token → Bool) : Grammar Bool := return test (← front)

def peek (k : Kind) : Grammar Bool := sees k.stands

def atEnd : Grammar Bool := sees List.isEmpty

def write (tokens : List Token) : Grammar Unit :=
  modify fun c => { c with written := c.written ++ tokens }

def expected (what : String) : Grammar α := do throw (GrammarError.shortfall what (← front))

def refuse (restriction : Restriction) : Grammar α := throw (.refused restriction)

def need (k : Kind) : Grammar (List Token) := do
  let rest ← front
  match k.split rest with
  | some (read, rest) =>
    modify fun c => { c with rest, written := c.written ++ read }
    return read
  | none => throw (k.absence rest)

def sign (text : String) : Grammar Unit := discard (need (.sign text))

def keyword (text : String) : Grammar Unit := discard (need (.keyword text))

def name : Grammar String := return Token.loneWord (← need .name)

def word : Grammar String := return Token.loneWord (← need .word)

/-- Reads what may stand at the front; tells whether it does. -/
def accept (k : Kind) : Grammar Bool := do
  if ← peek k then
    let _ ← need k
    return true
  else return false

def acceptSign (text : String) : Grammar Bool := accept (.sign text)

def acceptKeyword (text : String) : Grammar Bool := accept (.keyword text)

/-- Runs a reader apart from what is written so far. -/
def captured (p : Grammar α) : Grammar (α × List Token) := do
  let before := (← get).written
  modify fun c => { c with written := [] }
  let a ← p
  let read := (← get).written
  modify fun c => { c with written := before }
  return (a, read)

/-- Runs a reader and writes nothing. -/
def silently (p : Grammar α) : Grammar α := return (← captured p).1

/-- Runs a reader and, where its result asks for that, writes what it read as it stands. -/
def rawIf (test : α → Bool) (p : Grammar α) : Grammar α := do
  let before ← front
  let (a, read) ← captured p
  let rest ← front
  write (if test a then before.take (before.length - rest.length) else read)
  return a

def raw (p : Grammar α) : Grammar α := rawIf (fun _ => true) p

/-- Runs a reader, and where it fails stays in its place. -/
def attempt (p : Grammar α) : Grammar (Option α) := fun c =>
  match p c with
  | .ok (a, c) => .ok (some a, c)
  | .error _ => .ok (none, c)

/-- What would follow if a reader ran. -/
def ahead (p : Grammar α) : Grammar (Option (List Token)) := fun c =>
  match p c with
  | .ok (_, d) => .ok (some d.rest, c)
  | .error _ => .ok (none, c)

/-- Reads a group from within. What is left of it is kept in mind until all is read. -/
def within (delimiter : Delimiter) (p : Grammar α) : Grammar α := do
  match ← need (.group delimiter) with
  | [.group _ inner] => do
    let outer ← get
    set { rest := inner, stray := outer.stray : Cursor }
    let a ← p
    let left ← get
    let stray := left.stray.or (if left.rest.isEmpty then none else some delimiter)
    set { outer with
      written := outer.written.dropLast ++ [Token.group delimiter left.written], stray := stray }
    return a
  | _ => expected delimiter.title

def anyGroup : Grammar Delimiter := do
  match ← front with
  | .group delimiter _ :: _ =>
    let _ ← need (.group delimiter)
    return delimiter
  | _ => expected "delimiter"

/-- One of several ways to go on. -/
structure Choice (α : Type) where
  sought : List Kind
  holds : List Token → Bool
  read : Grammar α

def Choice.of (sought : List Kind) (read : Grammar α) : Choice α :=
  ⟨sought, fun ts => sought.any (·.stands ts), read⟩

def noneOf (sought : List Kind) (rest : List Token) : GrammarError :=
  match (sought.filter fun k => !k.stands rest).map Kind.title with
  | [] => if rest.isEmpty then .ended else .unexpected
  | [a] => GrammarError.shortfall a rest
  | [a, b] => GrammarError.shortfall s!"{a} or {b}" rest
  | titles => GrammarError.shortfall ("one of: " ++ ", ".intercalate titles) rest

/-- The first way that is open, told by what follows the given number of tokens. -/
def firstAfter (count : Nat) (choices : List (Choice α)) : Grammar α := do
  let rest := Token.afterMany count (← front)
  match choices.find? (·.holds rest) with
  | some choice => choice.read
  | none => throw (noneOf (choices.flatMap (·.sought)) rest)

def firstOf (choices : List (Choice α)) : Grammar α := firstAfter 0 choices

/-- Reads as long as there is more, `n` times at most. -/
def whileWithin (more : Grammar Bool) (p : Grammar Unit) : Nat → Grammar Unit
  | 0 => return
  | n + 1 => do
    if ← more then
      p
      whileWithin more p n

def repeatWhile (more : Grammar Bool) (p : Grammar Unit) : Grammar Unit := do
  whileWithin more p ((← front).length + 1)

/-- Reads up to the stop, with a sign between, which may also stand before the stop; tells how many times. -/
def listWithin (stops : List Token → Bool) (separator : String) (p : Grammar Unit) :
    Nat → Grammar Nat
  | 0 => return 0
  | n + 1 => do
    if ← sees stops then return 0
    p
    if ← sees stops then return 1
    sign separator
    return (← listWithin stops separator p n) + 1

def listUntil (stops : List Token → Bool) (separator : String) (p : Grammar Unit) :
    Grammar Nat := do
  listWithin stops separator p ((← front).length + 1)

def commaList (p : Grammar Unit) : Grammar Unit := discard (listUntil List.isEmpty "," p)

/-- Reads up to the stop or as long as a sign follows; tells how many times. -/
def chainWithin (stops : List Token → Bool) (separator : String) (p : Grammar Unit) :
    Nat → Grammar Nat
  | 0 => return 0
  | n + 1 => do
    if ← sees stops then return 0
    p
    if ← acceptSign separator then return (← chainWithin stops separator p n) + 1
    return 1

def chainUntil (stops : List Token → Bool) (separator : String) (p : Grammar Unit) :
    Grammar Nat := do
  chainWithin stops separator p ((← front).length + 1)

def isSign (text : String) (ts : List Token) : Bool := (Kind.sign text).stands ts

def isWord (text : String) (ts : List Token) : Bool := (Kind.keyword text).stands ts

def isName (ts : List Token) : Bool := Kind.name.stands ts

def isLifetime (ts : List Token) : Bool := Kind.lifetime.stands ts

def isLiteral (ts : List Token) : Bool := Kind.literal.stands ts

def isGroup (delimiter : Delimiter) (ts : List Token) : Bool := (Kind.group delimiter).stands ts

def isBraced (ts : List Token) : Bool := isGroup .brace ts

def isParenthesized (ts : List Token) : Bool := isGroup .parenthesis ts

def isBracketed (ts : List Token) : Bool := isGroup .bracket ts

/-- A colon that is not the first of two. -/
def isColon (ts : List Token) : Bool := isSign ":" ts && !isSign "::" ts

def skip (count : Nat) (ts : List Token) : List Token := Token.afterMany count ts

end Grammar
end SourceMacros

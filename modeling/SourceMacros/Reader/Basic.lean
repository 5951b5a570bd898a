import SourceMacros.Text.Blank
import SourceMacros.Text.Identifier

/-! Readers: from a text, what stands at its front and the rest, or the place where reading failed.
A reader may miss, and another may then be tried on the same text, or halt, and nothing else is tried. -/

namespace SourceMacros

inductive Outcome (α : Type) where
  | done (value : α) (rest : List Char)
  /-- Something else may stand here. -/
  | miss (place : List Char)
  /-- Nothing else can stand here. -/
  | halt (place : List Char)
  deriving DecidableEq

def Reader (α : Type) := List Char → Outcome α

namespace Reader

variable {α β : Type}

def done (value : α) : Reader α := fun s => .done value s

def miss : Reader α := fun s => .miss s

def andThen (p : Reader α) (f : α → Reader β) : Reader β := fun s =>
  match p s with
  | .done a r => f a r
  | .miss r => .miss r
  | .halt r => .halt r

instance : Monad Reader where
  pure := done
  bind := andThen

/-- The first reader, or where it misses the second, whose place of failure then counts. -/
def orElse (p : Reader α) (q : Unit → Reader α) : Reader α := fun s =>
  match p s with
  | .miss _ => q () s
  | o => o

instance : OrElse (Reader α) := ⟨orElse⟩

def optional (p : Reader α) : Reader (Option α) := fun s =>
  match p s with
  | .done a r => .done (some a) r
  | .miss _ => .done none s
  | .halt r => .halt r

/-- At most `n - 1` readings of `p` in a row, each of which has to shorten the text. -/
def manyWithin (p : Reader α) : Nat → Reader (List α)
  | 0 => miss
  | n + 1 => fun s =>
    match p s with
    | .miss _ => .done [] s
    | .halt r => .halt r
    | .done a r =>
      if r.length < s.length then
        match manyWithin p n r with
        | .done as t => .done (a :: as) t
        | o => o
      else .miss s

/-- As many readings of `p` in a row as there are. -/
def many (p : Reader α) : Reader (List α) := fun s => manyWithin p (s.length + 1) s

def separated (separator : Reader Unit) (p : Reader α) : Reader (List α) := do
  let first ← p
  let others ← many (do separator; p)
  return first :: others

def skip (test : Char → Bool) : Reader Unit := fun s => .done () (s.dropWhile test)

def spaces : Reader Unit := skip Text.isSpace

def gap : Reader Unit := skip Text.isGap

def char (c : Char) : Reader Unit
  | [] => .miss []
  | d :: r => if d = c then .done () r else .miss (d :: r)

/-- A character with any gap before it. -/
def symbol (c : Char) : Reader Unit := do
  gap
  char c

def finish : Reader Unit
  | [] => .done () []
  | s => .miss s

def identifier : Reader String
  | [] => .miss []
  | c :: r =>
    if Text.startsIdentifier c then
      .done (String.ofList (c :: r.takeWhile Text.continuesIdentifier))
        (r.dropWhile Text.continuesIdentifier)
    else .miss (c :: r)

def name : Reader String := do
  gap
  identifier

/-- The given word; where another word stands, the place of failure is before the gap. -/
def keyword (word : String) : Reader Unit := fun s =>
  match name s with
  | .done found r => if found = word then .done () r else .miss s
  | .miss r => .miss r
  | .halt r => .halt r

@[simp] theorem pure_apply (a : α) (s : List Char) : (pure a : Reader α) s = .done a s := rfl

theorem bind_apply (p : Reader α) (f : α → Reader β) (s : List Char) :
    (p >>= f) s = match p s with
      | .done a r => f a r
      | .miss r => .miss r
      | .halt r => .halt r := rfl

end Reader
end SourceMacros

import SourceMacros.Token.Lexer
import SourceMacros.Token.Number

/-! What may stand at the front of tokens, and how people are told of it. -/

namespace SourceMacros

namespace Token

/-- The words that are no identifiers. -/
def keywords : List String :=
  ["_", "abstract", "as", "async", "await", "become", "box", "break", "const", "continue", "crate",
    "do", "dyn", "else", "enum", "extern", "false", "final", "fn", "for", "if", "impl", "in", "let",
    "loop", "macro", "match", "mod", "move", "mut", "override", "priv", "pub", "ref", "return",
    "Self", "self", "static", "struct", "super", "trait", "true", "try", "type", "typeof", "unsafe",
    "unsized", "use", "virtual", "where", "while", "yield"]

def loneWord : List Token → String
  | [.word text] => text
  | _ => ""

/-- The tokens after punctuation of the given characters, each joined to the next. -/
def afterSign : List Char → List Token → Option (List Token)
  | [], ts => some ts
  | [c], .mark d _ :: ts => if d = c then some ts else none
  | c :: cs, .mark d true :: ts => if d = c then afterSign cs ts else none
  | _, _ => none

/-- The tokens after the first; a lifetime counts as one. -/
def afterFirst : List Token → List Token
  | .mark '\'' true :: .word _ :: ts => ts
  | _ :: ts => ts
  | [] => []

def afterMany : Nat → List Token → List Token
  | 0, ts => ts
  | n + 1, ts => afterMany n (afterFirst ts)

end Token

def Delimiter.title : Delimiter → String
  | .parenthesis => "parentheses"
  | .bracket => "square brackets"
  | .brace => "curly braces"

inductive Kind where
  | sign (text : String)
  | keyword (text : String)
  | name
  | word
  | lifetime
  | literal
  | stringLiteral
  | wholeLiteral
  | realLiteral
  | group (delimiter : Delimiter)

namespace Kind

def title : Kind → String
  | sign text => "`" ++ text ++ "`"
  | keyword text => "`" ++ text ++ "`"
  | name => "identifier"
  | word => "identifier"
  | lifetime => "lifetime"
  | literal => "literal"
  | stringLiteral => "string literal"
  | wholeLiteral => "integer literal"
  | realLiteral => "floating point literal"
  | group delimiter => delimiter.title

/-- A literal that passes the test; a number may have a minus before it. -/
def splitLiteral (test : String → Bool) : List Token → Option (List Token × List Token)
  | .literal text :: ts => if test text then some ([.literal text], ts) else none
  | .mark '-' _ :: .literal text :: ts =>
    if Token.isNumberText text && test text then some ([.lone '-', .literal text], ts) else none
  | _ => none

/-- What stands at the front, as it is written anew, and what follows it. -/
def split (k : Kind) (ts : List Token) : Option (List Token × List Token) :=
  match k with
  | sign text => (Token.afterSign text.toList ts).map (Token.marks text.toList, ·)
  | keyword text =>
    match ts with
    | .word w :: ts => if w = text then some ([.word w], ts) else none
    | _ => none
  | name =>
    match ts with
    | .word w :: ts => if Token.keywords.contains w then none else some ([.word w], ts)
    | _ => none
  | word =>
    match ts with
    | .word w :: ts => some ([.word w], ts)
    | _ => none
  | lifetime =>
    match ts with
    | .mark '\'' true :: .word w :: ts => some ([.mark '\'' true, .word w], ts)
    | _ => none
  | literal =>
    match ts with
    | .word w :: ts => if w = "true" ∨ w = "false" then some ([.word w], ts) else none
    | ts => splitLiteral (fun _ => true) ts
  | stringLiteral => splitLiteral (fun text => (Token.literal text).stringValue?.isSome) ts
  | wholeLiteral => splitLiteral Token.isWholeText ts
  | realLiteral => splitLiteral Token.isRealText ts
  | group delimiter =>
    match ts with
    | .group d inner :: ts => if d = delimiter then some ([.group d inner], ts) else none
    | _ => none

def stands (k : Kind) (ts : List Token) : Bool := (k.split ts).isSome

end Kind
end SourceMacros

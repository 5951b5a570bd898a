/-! Tokens of program text, and the text of tokens. -/

namespace SourceMacros

inductive Delimiter where
  | parenthesis
  | bracket
  | brace
  deriving DecidableEq

inductive Token where
  | word (text : String)
  /-- A punctuation character; `joined` tells that the next token continues it. -/
  | mark (sign : Char) (joined : Bool)
  | literal (text : String)
  | group (delimiter : Delimiter) (inner : List Token)

namespace Token

def joins : Token → Bool
  | .mark _ joined => joined
  | _ => false

def lone (sign : Char) : Token := .mark sign false

def marks : List Char → List Token
  | [] => []
  | [c] => [.mark c false]
  | c :: cs => .mark c true :: marks cs

mutual

def written : Token → List Char
  | .word text => text.toList
  | .mark sign _ => [sign]
  | .literal text => text.toList
  | .group .parenthesis inner => '(' :: (innerWritten true inner ++ [')'])
  | .group .bracket inner => '[' :: (innerWritten true inner ++ [']'])
  | .group .brace inner => '{' :: (innerWritten false inner ++ [' ', '}'])

/-- A blank stands before each token that does not continue the one before it. -/
def innerWritten (continues : Bool) : List Token → List Char
  | [] => []
  | t :: ts => (if continues then [] else [' ']) ++ t.written ++ innerWritten t.joins ts

end

def renderAll (tokens : List Token) : String := String.ofList (innerWritten true tokens)

end Token
end SourceMacros

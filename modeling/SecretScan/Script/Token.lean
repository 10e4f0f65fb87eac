/-!
# Tokens of a script

A script is a file of the kind in which variables are looked up by their names. Its
tokens are names, numbers, texts, and signs, which are the operators, the brackets
and the reserved words. The layout of the lines shows as tokens too: the end of a
line, and the beginning and the end of an indented block.
-/

namespace SecretScan.Script

/-- A text between quotes: what stands before the quotes, and what between them. -/
structure TextLiteral where
  /-- A text of bytes. -/
  bytes : Bool
  /-- A text in which backslashes mean themselves. -/
  raw : Bool
  /-- A text with fields between braces. -/
  formatted : Bool
  body : List Char
deriving DecidableEq, Repr

/-- A token. -/
inductive Token where
  | name (spelling : String)
  | number (spelling : String)
  | text (literal : TextLiteral)
  /-- An operator, a bracket or a reserved word. -/
  | sign (spelling : String)
  | newline
  | indent
  | dedent
deriving DecidableEq, Repr

/-- A token and the number of the line on which it ends. -/
structure Lexeme where
  token : Token
  line : Nat
deriving DecidableEq, Repr

/-- The words that are no names. -/
def reservedWords : List String :=
  ["False", "None", "True", "and", "as", "assert", "async", "await", "break", "class",
   "continue", "def", "del", "elif", "else", "except", "finally", "for", "from", "global",
   "if", "import", "in", "is", "lambda", "nonlocal", "not", "or", "pass", "raise", "return",
   "try", "while", "with", "yield"]

/-- Whether a character goes on with a name, as far as a glance can tell: whether it
really may stand in a name is looked up for the name as a whole. -/
def joins (c : Char) : Bool :=
  c.isAlphanum || c == '_' || 0x80 ≤ c.toNat

end SecretScan.Script

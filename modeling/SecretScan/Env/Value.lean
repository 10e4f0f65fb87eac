import SecretScan.Text.Blank

/-!
# Values in an environment file

A value is written as it is unless a reader of the file would take it for
something else: a blank, a number sign, a quote or a backslash in it makes it a
quoted value, in which quotes, backslashes and line ends are escaped. `decode` is
such a reader.
-/

namespace SecretScan.Env.Value

/-- Whether a character may not stand in an unquoted value. -/
def needsQuotes (c : Char) : Bool :=
  Text.isBlank c || c == '#' || c == '"' || c == '\'' || c == '\\'

/-- The written form of a character of a quoted value. -/
def escape (c : Char) : List Char :=
  if c == '\\' then ['\\', '\\']
  else if c == '"' then ['\\', '"']
  else if c == '\n' then ['\\', 'n']
  else if c == '\r' then ['\\', 'r']
  else [c]

/-- The written form of a value. -/
def encode (s : List Char) : List Char :=
  if s.any needsQuotes then '"' :: s.flatMap escape ++ ['"'] else s

/-- Undoes the escapes of a quoted value and stops at its closing quote. -/
def unescape : List Char → List Char
  | '\\' :: 'n' :: rest => '\n' :: unescape rest
  | '\\' :: 'r' :: rest => '\r' :: unescape rest
  | '\\' :: c :: rest => c :: unescape rest
  | '"' :: _ => []
  | c :: rest => c :: unescape rest
  | [] => []

/-- The value that a written form stands for. -/
def decode : List Char → List Char
  | '"' :: rest => unescape rest
  | s => s

end SecretScan.Env.Value

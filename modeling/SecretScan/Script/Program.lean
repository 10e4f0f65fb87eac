import SecretScan.Script.Lexer
import SecretScan.Script.Statement
import SecretScan.Text.LineEnds

/-!
# Scripts

A text is a script if its tokens make statements and its numbers and texts are well
formed. The expressions in the fields of a formatted text are read as if they stood
between parentheses, and there may be formatted texts in them again.
-/

namespace SecretScan.Script

/-- Whether the numbers and texts among tokens are well formed, where formatted texts
stand in each other at most so deep. -/
def areReadable : Nat → List Lexeme → Bool
  | 0, _ => false
  | depth + 1, ts =>
    ts.all fun t =>
      match t.token with
      | .number spelling => Number.isReadable spelling.toList
      | .text l =>
        match l.expressions? with
        | none => false
        | some expressions =>
          expressions.all fun e =>
            match tokens? ('(' :: e ++ [')', '\n']) with
            | none => false
            | some ts => (Expression.read .stars ts).isSome && areReadable depth ts
      | _ => true

/-- How long the formatted texts among tokens are together. They cannot stand in each
other any deeper. -/
def formattedLength (ts : List Lexeme) : Nat :=
  (ts.map fun t =>
    match t.token with
    | .text l => if l.formatted then l.body.length else 0
    | _ => 0).foldl (· + ·) 0

/-- The text of a script as its tokens are read from it: all lines end in line feeds,
also the last one. A carriage return with a line feed at the very end is followed by one
more line, which is empty. -/
def withLineFeeds (s : List Char) : List Char :=
  let ended :=
    match s.reverse with
    | '\n' :: '\r' :: _ => false
    | '\n' :: _ => true
    | '\r' :: _ => true
    | _ => false
  Text.unifyLineEnds s ++ (if ended then [] else ['\n'])

/-- The statements of a script, if the text is one. -/
def read? (s : List Char) : Option (List Statement) := do
  if s.contains '\x00' then none
  let ts ← tokens? (withLineFeeds s)
  let statements ← Statement.readAll (ts.length + 1) ts
  if areReadable (formattedLength ts + 1) ts then some statements else none

end SecretScan.Script

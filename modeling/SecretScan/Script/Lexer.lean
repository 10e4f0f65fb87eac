import SecretScan.Script.Literal
import SecretScan.Text.Identifier

/-!
# From characters to tokens

Every line that is not blank begins with a margin, and the margins of the lines make
the blocks. A margin is measured twice, once with wide tabs and once with narrow ones,
and both measures have to tell the same story. Between brackets the ends of lines mean
nothing.
-/

namespace SecretScan.Script

/-- What is left to read, the number of its first line, and the brackets that have to
be closed, the innermost first. -/
structure Place where
  rest : List Char
  line : Nat
  awaited : List Char := []
deriving DecidableEq, Repr

/-- The width of a margin with wide and with narrow tabs. -/
structure Margin where
  wide : Nat := 0
  narrow : Nat := 0
deriving DecidableEq, Repr

namespace Margin

/-- How wide a wide tab is. -/
def tabWidth : Nat := 8

/-- A margin that is one blank wider. -/
def blank (m : Margin) : Margin := ⟨m.wide + 1, m.narrow + 1⟩

/-- A margin up to the next tab stop. -/
def tab (m : Margin) : Margin := ⟨(m.wide / tabWidth + 1) * tabWidth, m.narrow + 1⟩

/-- Reads the margin of a line. A margin may go on in the next line behind a
backslash; then the width before the first backslash counts, unless it is nothing. -/
def read (m : Margin) (fixed line : Nat) : List Char → Option (Margin × Place)
  | '\\' :: '\n' :: c :: rest =>
    read m (if fixed = 0 then m.wide else fixed) (line + 1) (c :: rest)
  | '\\' :: _ => none
  | ' ' :: rest => read m.blank fixed line rest
  | '\t' :: rest => read m.tab fixed line rest
  | '\x0c' :: rest => read {} fixed line rest
  | rest => some (if fixed = 0 then m else ⟨fixed, fixed⟩, { rest, line })

/-- The most margins that may be open at once. -/
def limit : Nat := 100

/-- Compares the margin of a line with the open ones, the innermost first: the tokens
that the difference amounts to, and the margins that are open then. -/
def settle (m : Margin) (margins : List Margin) : Option (List Token × List Margin) :=
  let inner := margins.headD {}
  if m.wide = inner.wide then
    if m.narrow = inner.narrow then some ([], margins) else none
  else if inner.wide < m.wide then
    if limit ≤ margins.length || m.narrow ≤ inner.narrow then none
    else some ([.indent], m :: margins)
  else
    let outer := margins.dropWhile (m.wide < ·.wide)
    if outer.head? = some m then
      some (List.replicate (margins.length - outer.length) .dedent, outer)
    else none

end Margin

/-- The operators and brackets, the longest first. -/
def operators : List (List Char) :=
  ["**=", "...", "//=", "<<=", ">>=", "!=", "%=", "&=", "**", "*=", "+=", "-=", "->", "//",
   "/=", ":=", "<<", "<=", "==", ">=", ">>", "@=", "^=", "|=", "%", "&", "(", ")", "*", "+",
   ",", "-", ".", "/", ":", ";", "<", "=", ">", "@", "[", "]", "^", "\x7b", "|", "\x7d",
   "~"].map String.toList

/-- The brackets to be closed after an operator or a bracket, unless it closes the wrong
one. -/
def awaitedAfter (awaited : List Char) : List Char → Option (List Char)
  | [c] =>
    match TextLiteral.closing? c with
    | some close =>
      if TextLiteral.bracketLimit ≤ awaited.length then none else some (close :: awaited)
    | none =>
      if c == ')' || c == ']' || c == '\x7d' then
        match awaited with
        | close :: outer => if c == close then some outer else none
        | [] => none
      else some awaited
  | _ => some awaited

/-- The place behind characters that were read. -/
def Place.skip (p : Place) (s : List Char) : Place :=
  { p with rest := p.rest.drop s.length }

/-- Reads a name or a reserved word. -/
def readName (p : Place) : Option (Token × Place) :=
  let s := p.rest.takeWhile joins
  let spelling := String.ofList s
  if reservedWords.contains spelling then some (.sign spelling, p.skip s)
  else if s.all (·.toNat < 0x80) || Text.isName s then some (.name spelling, p.skip s)
  else none

/-- Reads a number. -/
def readNumber (p : Place) : Option (Token × Place) :=
  let reach := p.rest.takeWhile fun c => joins c || c == '.' || c == '+' || c == '-'
  (Number.after reach).map fun rest =>
    let s := reach.take (reach.length - rest.length)
    (.number (String.ofList s), p.skip s)

/-- Reads an operator or a bracket. -/
def readOperator (p : Place) : Option (Token × Place) := do
  let s ← operators.find? (·.isPrefixOf p.rest)
  let awaited ← awaitedAfter p.awaited s
  return (.sign (String.ofList s), { p.skip s with awaited })

/-- Reads one token. -/
def readToken (p : Place) : Option (Token × Place) :=
  match TextLiteral.read? p.rest with
  | some (some (l, rest)) =>
    some (.text l, { p with rest, line := p.line + l.body.count '\n' })
  | some none => none
  | none =>
    match p.rest with
    | [] => none
    | c :: rest =>
      if c.isDigit || (c == '.' && (rest.head?.any Char.isDigit)) then readNumber p
      else if joins c then readName p
      else readOperator p

/-- Whether a line holds nothing but a comment. -/
def isBlankLine : List Char → Bool
  | '#' :: _ => true
  | '\n' :: _ => true
  | _ => false

/-- What follows a line. -/
def afterLine (s : List Char) : List Char :=
  (s.dropWhile (· != '\n')).drop 1

/-- Reads all tokens, from the start of a line or from inside of one. Each step reads
at least one character or is the last one. -/
def readTokens : Nat → Bool → List Margin → Place → Option (List Lexeme)
  | 0, _, _, _ => none
  | fuel + 1, true, margins, p => do
    let (m, p) ← Margin.read {} 0 p.line p.rest
    if isBlankLine p.rest then
      readTokens fuel true margins { rest := afterLine p.rest, line := p.line + 1 }
    else
      let (marks, margins) ← m.settle margins
      let marks := marks.map (⟨·, p.line⟩)
      if p.rest.isEmpty then some marks
      else (readTokens fuel false margins p).map (marks ++ ·)
  | fuel + 1, false, margins, p =>
    match p.rest with
    | [] => none
    | '\n' :: rest =>
      let next := { p with rest, line := p.line + 1 }
      if p.awaited.isEmpty then
        (readTokens fuel true margins next).map (⟨.newline, p.line⟩ :: ·)
      else readTokens fuel false margins next
    | '\\' :: '\n' :: c :: rest =>
      readTokens fuel false margins { p with rest := c :: rest, line := p.line + 1 }
    | c :: rest =>
      if c == ' ' || c == '\t' || c == '\x0c' then readTokens fuel false margins { p with rest }
      else if c == '#' then
        readTokens fuel false margins { p with rest := rest.dropWhile (· != '\n') }
      else
        match readToken p with
        | some (t, next) => (readTokens fuel false margins next).map (⟨t, next.line⟩ :: ·)
        | none => none

/-- The tokens of a text whose lines end in line feeds. -/
def tokens? (s : List Char) : Option (List Lexeme) :=
  readTokens (2 * s.length + 2) true [{}] { rest := s, line := 1 }

end SecretScan.Script

/-!
# Positions in a document

A position knows what follows it, its line and its column. Columns decide how
blocks nest, and line and distance decide whether a text can still turn out to be
a key. The place of a position is kept as a mark, by which it can be shown later.
-/

namespace SecretScan.Yaml

/-- Stands for the end of a document where a character is asked for. -/
def endMark : Char := '\x00'

/-- The characters that end a line. -/
def isBreak (c : Char) : Bool :=
  c == '\n' || c == '\r' || c == '\x85' || c == '\u2028' || c == '\u2029'

/-- The end of a line or of the document. -/
def isBreakOrEnd (c : Char) : Bool := isBreak c || c == endMark

/-- A blank, or the end of a line or of the document. -/
def isSpaceOrEnd (c : Char) : Bool := isBreakOrEnd c || c == ' '

/-- A blank or tab, or the end of a line or of the document. -/
def isGap (c : Char) : Bool := isSpaceOrEnd c || c == '\t'

/-- The mark that may stand at the beginning of a document. -/
def byteOrderMark : Char := '\ufeff'

/-- A place in a text: how many characters are before it, how many lines, and how many
characters of its own line. -/
structure Mark where
  index : Nat := 0
  line : Nat := 0
  column : Nat := 0
deriving DecidableEq, Repr

namespace Mark

/-- How many characters an excerpt may have on each side. -/
def reach : Nat := 37

/-- How many characters an excerpt has on a side that is too long. -/
def shortened : Nat := 32

/-- What stands for the rest of a side that is too long. -/
def ellipsis : List Char := " ... ".toList

/-- The characters of one side up to the end of the line, and what stands for the rest. -/
def side (s : List Char) : List Char × List Char :=
  let inLine := s.takeWhile (!isBreakOrEnd ·)
  if reach ≤ inLine.length then (inLine.take shortened, ellipsis) else (inLine, [])

/-- The text around a place, with a sign under the place. -/
def excerpt (source : List Char) (m : Mark) : String :=
  let (before, head) := side (source.take m.index).reverse
  let (after, tail) := side (source.drop m.index)
  let margin := List.replicate 4 ' '
  String.ofList (margin ++ head ++ before.reverse ++ after ++ tail ++ '\n' :: margin ++
    List.replicate (before.length + head.length) ' ' ++ ['^'])

/-- What a document is called that did not come from a file. -/
def documentName : String := "<unicode string>"

/-- Where a place is. -/
def describe (source : List Char) (m : Mark) : String :=
  "  in \"" ++ documentName ++ "\", line " ++ toString (m.line + 1) ++ ", column " ++
    toString (m.column + 1) ++ ":\n" ++ m.excerpt source

end Mark

/-- A position in a document. -/
structure Position where
  rest : List Char
  index : Nat := 0
  line : Nat := 0
  column : Nat := 0
deriving DecidableEq, Repr

namespace Position

/-- The place of a position. -/
def mark (p : Position) : Mark := ⟨p.index, p.line, p.column⟩

/-- The character at a distance. -/
def peekAt (p : Position) (n : Nat) : Char := p.rest[n]?.getD endMark

/-- The character at the position. -/
def peek (p : Position) : Char := p.rest.headD endMark

/-- Whether nothing follows. -/
def atEnd (p : Position) : Bool := p.rest.isEmpty

/-- The position after one character. A carriage return in front of a line feed does
not end a line by itself, and the byte order mark takes no column. -/
def step : Position → Position
  | ⟨[], index, line, column⟩ => ⟨[], index, line, column⟩
  | ⟨c :: rest, index, line, column⟩ =>
    if isBreak c && !(c == '\r' && rest.head? == some '\n') then ⟨rest, index + 1, line + 1, 0⟩
    else ⟨rest, index + 1, line, if c == byteOrderMark then column else column + 1⟩

/-- The position after `n` characters. -/
def advance : Nat → Position → Position
  | 0, p => p
  | n + 1, p => advance n p.step

/-- The characters of a class at the position, and the position after them. -/
def takeWhile (f : Char → Bool) (p : Position) : List Char × Position :=
  let taken := p.rest.takeWhile f
  (taken, p.advance taken.length)

/-- The position after the characters of a class. -/
def skipWhile (f : Char → Bool) (p : Position) : Position := (p.takeWhile f).2

/-- The position after blanks. -/
def skipSpaces (p : Position) : Position := p.skipWhile (· == ' ')

/-- The position after a comment, if there is one. -/
def skipComment (p : Position) : Position :=
  if p.peek == '#' then p.skipWhile (!isBreak ·) else p

/-- The line break at the position, in its normal form, and the position after it. -/
def lineBreak (p : Position) : List Char × Position :=
  let c := p.peek
  if c == '\r' && p.peekAt 1 == '\n' then (['\n'], p.advance 2)
  else if c == '\r' || c == '\n' || c == '\x85' then (['\n'], p.step)
  else if c == '\u2028' || c == '\u2029' then ([c], p.step)
  else ([], p)

/-- Whether three equal characters stand here on their own. -/
def isTriple (c : Char) (p : Position) : Bool :=
  [c, c, c].isPrefixOf p.rest && isGap (p.peekAt 3)

/-- Whether a mark between documents stands here. -/
def atSeparator (p : Position) : Bool := p.isTriple '-' || p.isTriple '.'

/-- More steps than can be made from the position. -/
def budget (p : Position) : Nat := p.rest.length + 1

end Position

end SecretScan.Yaml

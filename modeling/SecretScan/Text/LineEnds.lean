/-!
# Ends of lines

Lines end in a line feed, a carriage return, or both in this order. Some readers know
more characters that end a line: the vertical tab, the form feed, three separators, the
next-line character, and the line and paragraph separators of Unicode.
-/

namespace SecretScan.Text

/-- The text with a line feed at the end of every line. -/
def unifyLineEnds : List Char → List Char
  | '\r' :: '\n' :: rest => '\n' :: unifyLineEnds rest
  | '\r' :: rest => '\n' :: unifyLineEnds rest
  | c :: rest => c :: unifyLineEnds rest
  | [] => []

/-- Whether a character ends a line for a reader that knows all of them. -/
def isLineEnd (c : Char) : Bool :=
  let n := c.toNat
  (0x0A ≤ n && n ≤ 0x0D) || (0x1C ≤ n && n ≤ 0x1E) || n == 0x85 || n == 0x2028 || n == 0x2029

/-- The lines of a text for a reader that knows all line ends, each with its end. -/
def linesWithEnds : List Char → List (List Char)
  | '\r' :: '\n' :: rest => ['\r', '\n'] :: linesWithEnds rest
  | c :: rest =>
    if isLineEnd c then [c] :: linesWithEnds rest
    else
      match linesWithEnds rest with
      | line :: lines => (c :: line) :: lines
      | [] => [[c]]
  | [] => []

end SecretScan.Text

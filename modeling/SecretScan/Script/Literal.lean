import SecretScan.Script.Number
import SecretScan.Text.CharName

/-!
# Texts of a script

A text stands between single or triple quotes, with letters before them that say
whether it is made of bytes, whether backslashes mean themselves, and whether it has
fields. A field holds an expression between braces, and may go on with a conversion
and a format, in which there may be fields again, but not deeper.
-/

namespace SecretScan.Script

namespace TextLiteral

/-- The letters before the quotes, and what each group of them means: bytes, raw,
formatted. -/
def marks : List (String × Bool × Bool × Bool) :=
  [("", false, false, false), ("b", true, false, false), ("r", false, true, false),
   ("u", false, false, false), ("f", false, false, true), ("br", true, true, false),
   ("rb", true, true, false), ("fr", false, true, true), ("rf", false, true, true)]

/-- The body of a text between single quotes, and what follows. -/
def readLine (quote : Char) : List Char → Option (List Char × List Char)
  | '\\' :: c :: rest => (readLine quote rest).map fun (body, rest) => ('\\' :: c :: body, rest)
  | c :: rest =>
    if c == quote then some ([], rest)
    else if c == '\n' then none
    else (readLine quote rest).map fun (body, rest) => (c :: body, rest)
  | [] => none

/-- The body of a text between triple quotes, and what follows. -/
def readBlock (quote : Char) : List Char → Option (List Char × List Char)
  | '\\' :: c :: rest => (readBlock quote rest).map fun (body, rest) => ('\\' :: c :: body, rest)
  | c :: rest =>
    if c == quote && [quote, quote].isPrefixOf rest then some ([], rest.drop 2)
    else (readBlock quote rest).map fun (body, rest) => (c :: body, rest)
  | [] => none

/-- Whether a text literal starts here, and if so, the literal and what follows. -/
def read? (s : List Char) : Option (Option (TextLiteral × List Char)) :=
  let letters := s.takeWhile Char.isAlpha
  match marks.lookup (String.ofList (letters.map Char.toLower)), s.drop letters.length with
  | some (bytes, raw, formatted), quote :: rest =>
    if quote == '"' || quote == '\'' then
      let result :=
        if [quote, quote].isPrefixOf rest then readBlock quote (rest.drop 2)
        else readLine quote rest
      some (result.map fun (body, rest) => (⟨bytes, raw, formatted, body⟩, rest))
    else none
  | _, _ => none

/-- Whether a text begins with so many hexadecimal digits. -/
def hasHexDigits (n : Nat) (s : List Char) : Bool :=
  (s.take n).length == n && (s.take n).all isHexDigit

/-- The value of hexadecimal digits. -/
def hexValue (s : List Char) : Nat :=
  s.foldl (fun n c =>
    n * 16 + (if c.isDigit then c.toNat - 48 else c.toLower.toNat - 87)) 0

/-- Whether all escapes of a text are complete. -/
def hasGoodEscapes (bytes : Bool) : List Char → Bool
  | '\\' :: c :: rest =>
    (match c with
      | 'x' => hasHexDigits 2 rest
      | 'u' => bytes || hasHexDigits 4 rest
      | 'U' => bytes || (hasHexDigits 8 rest && hexValue (rest.take 8) < 0x110000)
      | 'N' =>
        bytes ||
          match rest with
          | '\x7b' :: more =>
            let name := more.takeWhile (· != '\x7d')
            name.length < more.length && (Text.charNamed? (String.ofList name)).isSome
          | _ => false
      | _ => true) && hasGoodEscapes bytes rest
  | _ :: rest => hasGoodEscapes bytes rest
  | [] => true

/-- How a stretch of plain text inside a formatted text ends. -/
inductive StretchEnd where
  /-- At the end of the text. -/
  | done
  /-- Behind a brace that is written twice and stands for itself. -/
  | doubled (rest : List Char)
  /-- At a brace. -/
  | brace (rest : List Char)
  /-- At a closing brace that closes nothing. -/
  | stray

/-- Reads plain text up to a brace. `inName` says that the reader is inside the name
of a character, whose braces do not count. -/
def stretch (raw nested inName : Bool) (before : List Char) : List Char → List Char × StretchEnd
  | [] => (before.reverse, .done)
  | c :: rest =>
    if inName then stretch raw nested (c != '\x7d') (c :: before) rest
    else if c == '\\' && !raw then
      match rest with
      | 'N' :: '\x7b' :: more => stretch raw nested true ('\x7b' :: 'N' :: c :: before) more
      | d :: more =>
        if d == '\x7b' || d == '\x7d' then stretch raw nested false (c :: before) (d :: more)
        else stretch raw nested false (d :: c :: before) more
      | [] => ((c :: before).reverse, .done)
    else if c == '\x7b' || c == '\x7d' then
      if nested then (before.reverse, .brace (c :: rest))
      else if rest.head? == some c then ((c :: before).reverse, .doubled (rest.drop 1))
      else if c == '\x7d' then (before.reverse, .stray)
      else (before.reverse, .brace (c :: rest))
    else stretch raw nested false (c :: before) rest

/-- The bracket that closes a bracket. -/
def closing? : Char → Option Char
  | '(' => some ')'
  | '[' => some ']'
  | '\x7b' => some '\x7d'
  | _ => none

/-- The most brackets that may be open at once. -/
def bracketLimit : Nat := 200

/-- Where the reader of an expression is: inside a text between single or triple
quotes, or outside of texts. -/
inductive Inside where
  | line (quote : Char)
  | block (quote : Char)
  | none

/-- The expression of a field, and what follows it. `awaited` holds the brackets that
have to be closed, the innermost first; the next `sure` characters belong to the
expression without further question. -/
def expression (inside : Inside) (awaited : List Char) (sure : Nat) (before : List Char) :
    List Char → Option (List Char × List Char)
  | [] => none
  | c :: rest =>
    if c == '\\' then none
    else if 0 < sure then expression inside awaited (sure - 1) (c :: before) rest
    else
      match inside with
      | .line quote =>
        expression (if c == quote then .none else inside) awaited 0 (c :: before) rest
      | .block quote =>
        if c == quote && [quote, quote].isPrefixOf rest then
          expression .none awaited 2 (c :: before) rest
        else expression inside awaited 0 (c :: before) rest
      | .none =>
        if c == '\'' || c == '"' then
          if [c, c].isPrefixOf rest then expression (.block c) awaited 2 (c :: before) rest
          else expression (.line c) awaited 0 (c :: before) rest
        else if c == '#' then none
        else
          match closing? c with
          | some close =>
            if bracketLimit ≤ awaited.length then none
            else expression .none (close :: awaited) 0 (c :: before) rest
          | none =>
            if awaited.isEmpty && "!=<>".toList.contains c && rest.head? == some '=' then
              expression .none awaited 1 (c :: before) rest
            else if awaited.isEmpty && "!:=\x7d".toList.contains c then
              some (before.reverse, c :: rest)
            else if c == ')' || c == ']' || c == '\x7d' then
              match awaited with
              | close :: outer =>
                if c == close then expression .none outer 0 (c :: before) rest else none
              | [] => none
            else expression .none awaited 0 (c :: before) rest

/-- Whether an expression consists of blanks only. -/
def isEmptyExpression (s : List Char) : Bool :=
  s.all fun c => c == ' ' || c == '\t' || c == '\n' || c == '\x0c'

/-- Drops the sign that asks for the expression to be shown, and the blanks after it. -/
def afterShown : List Char → List Char
  | '=' :: rest => rest.dropWhile fun c => c == ' ' || (0x09 ≤ c.toNat && c.toNat ≤ 0x0D)
  | rest => rest

/-- Drops the conversion of a field. -/
def afterConversion : List Char → Option (List Char)
  | '!' :: c :: rest => if c == 's' || c == 'r' || c == 'a' then some rest else none
  | ['!'] => none
  | rest => some rest

/-- The expressions in a formatted text, and where it ended: nowhere, or at the brace
that closes the field whose format it is. Fields stand at most two deep. -/
def fields (raw : Bool) : Nat → Nat → List Char → Option (List (List Char) × List Char)
  | 0, _, _ => none
  | fuel + 1, depth, s =>
    let (plain, stop) := stretch raw (depth != 0) false [] s
    if !(raw || hasGoodEscapes false plain) then none
    else
      match stop with
      | .stray => none
      | .done => if depth = 0 then some ([], []) else none
      | .doubled rest => fields raw fuel depth rest
      | .brace ('\x7b' :: rest) => do
        if 2 ≤ depth then none
        let (e, rest) ← expression .none [] 0 [] rest
        if isEmptyExpression e then none
        let rest ← afterConversion (afterShown rest)
        let (inner, rest) ←
          match rest with
          | ':' :: rest => fields raw fuel (depth + 1) rest
          | _ => some ([], rest)
        match rest with
        | '\x7d' :: rest =>
          let (more, rest) ← fields raw fuel depth rest
          some (e :: (inner ++ more), rest)
        | _ => none
      | .brace rest => some ([], rest)

/-- The expressions in a literal, unless the literal is malformed. -/
def expressions? (l : TextLiteral) : Option (List (List Char)) :=
  if l.formatted then (fields l.raw (l.body.length + 1) 0 l.body).map (·.1)
  else if l.bytes && l.body.any (fun c => 0x80 ≤ c.toNat) then none
  else if l.raw || hasGoodEscapes l.bytes l.body then some []
  else none

end TextLiteral

end SecretScan.Script

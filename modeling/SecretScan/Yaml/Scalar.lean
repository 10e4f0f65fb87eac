import SecretScan.Text.Utf8Fault
import SecretScan.Yaml.Token

/-!
# The text of tokens

How the texts of quoted, plain and block scalars, of tags and of directives are
read from a document. Line breaks inside a scalar are folded: one becomes a blank,
several become one less.
-/

namespace SecretScan.Yaml

open Position

/-- A letter, a digit, a hyphen or a low line, all of the ASCII range. -/
def isNameChar (c : Char) : Bool := c.isAlphanum || c == '-' || c == '_'

/-- A hexadecimal digit. -/
def isHexDigit (c : Char) : Bool :=
  c.isDigit || ('a' ≤ c && c ≤ 'f') || ('A' ≤ c && c ≤ 'F')

/-- The value of hexadecimal digits. -/
def hexValue (digits : List Char) : Nat :=
  Text.ofDigits 16 (digits.filterMap (Text.digitIn? 16))

namespace Scalar

/-! ## Quoted scalars -/

/-- What a line break amounts to, given the empty lines after it: one that is an
ordinary break folds into them, and into a blank if there are none. -/
def fold (lineBreak breaks : List Char) : List Char :=
  if lineBreak ≠ ['\n'] then lineBreak ++ breaks
  else if breaks.isEmpty then [' ']
  else breaks

/-- What is going on inside quotes of either kind. -/
def readingQuoted : String := "while scanning a quoted scalar"

/-- What is going on inside double quotes. -/
def readingDoubleQuoted : String := "while scanning a double-quoted scalar"

/-- Empty lines inside a quoted scalar. A mark between documents may not stand at
the beginning of a line. -/
def quotedBreaks (start : Mark) (sofar : List Char) (p : Position) :
    Nat → Except ReadError ((List Char) × Position)
  | 0 => .ok (sofar, p)
  | fuel + 1 =>
    if p.atSeparator then noTokenIn readingQuoted start p "found unexpected document separator"
    else
      let p := p.skipWhile fun c => c == ' ' || c == '\t'
      if isBreak p.peek then
        let (b, p) := p.lineBreak
        quotedBreaks start (sofar ++ b) p fuel
      else .ok (sofar, p)

/-- Blanks and line breaks inside a quoted scalar. -/
def quotedSpaces (start : Mark) (p : Position) : Except ReadError ((List Char) × Position) := do
  let (blanks, p) := p.takeWhile fun c => c == ' ' || c == '\t'
  if p.atEnd then noTokenIn readingQuoted start p "found unexpected end of stream"
  else if isBreak p.peek then
    let (b, p) := p.lineBreak
    let (breaks, p) ← quotedBreaks start [] p p.budget
    return (fold b breaks, p)
  else return (blanks, p)

/-- The characters with an escape of one letter. -/
def escape? : Char → Option Char
  | '0' => some '\x00'
  | 'a' => some '\x07'
  | 'b' => some '\x08'
  | 't' => some '\t'
  | '\t' => some '\t'
  | 'n' => some '\n'
  | 'v' => some '\x0b'
  | 'f' => some '\x0c'
  | 'r' => some '\r'
  | 'e' => some '\x1b'
  | ' ' => some ' '
  | '"' => some '"'
  | '\\' => some '\\'
  | '/' => some '/'
  | 'N' => some '\x85'
  | '_' => some '\xa0'
  | 'L' => some '\u2028'
  | 'P' => some '\u2029'
  | _ => none

/-- How many hexadecimal digits follow an escape for a character code. -/
def codeLength? : Char → Option Nat
  | 'x' => some 2
  | 'u' => some 4
  | 'U' => some 8
  | _ => none

/-- The character with a code, unless it is the code of one half of a character. -/
def charOfCode (n : Nat) : Except ReadError Char :=
  if 0x80000000 ≤ n then .error (.bare .codeTooLarge)
  else if 0x110000 ≤ n then .error (.value .notACharacter)
  else if n.isValidChar then .ok (Char.ofNat n)
  else .error .halfCharacter

/-- An escape in a scalar between double quotes, read at its backslash. -/
def escaped (start : Mark) (p : Position) : Except ReadError ((List Char) × Position) := do
  let p := p.step
  let c := p.peek
  match escape? c, codeLength? c with
  | some d, _ => return ([d], p.step)
  | none, some n =>
    let p := p.step
    let digits := (p.rest.take n).takeWhile isHexDigit
    if digits.length < n then
      noTokenIn readingDoubleQuoted start p
        (Complaint.expected s!"escape sequence of {n} hexadecimal numbers"
          (p.peekAt digits.length))
    else
      let d ← charOfCode (hexValue digits)
      return ([d], p.advance n)
  | none, none =>
    if isBreak c then
      let (_, p) := p.lineBreak
      quotedBreaks start [] p p.budget
    else
      noTokenIn readingDoubleQuoted start p
        ("found unknown escape character " ++ Complaint.named c)

/-- Characters of a quoted scalar that are neither blanks nor line breaks. -/
def quotedText (double : Bool) (start : Mark) (sofar : List Char) (p : Position) :
    Nat → Except ReadError ((List Char) × Position)
  | 0 => .ok (sofar, p)
  | fuel + 1 => do
    let (plain, p) := p.takeWhile fun c => !(isGap c || c == '\'' || c == '"' || c == '\\')
    let sofar := sofar ++ plain
    let c := p.peek
    if !double && c == '\'' && p.peekAt 1 == '\'' then
      quotedText double start (sofar ++ ['\'']) (p.advance 2) fuel
    else if (double && c == '\'') || (!double && (c == '"' || c == '\\')) then
      quotedText double start (sofar ++ [c]) p.step fuel
    else if double && c == '\\' then
      let (more, p) ← escaped start p
      quotedText double start (sofar ++ more) p fuel
    else return (sofar, p)

/-- The rest of a quoted scalar, up to its closing quote. -/
def quotedRest (double : Bool) (start : Mark) (sofar : List Char) (p : Position) :
    Nat → Except ReadError ((List Char) × Position)
  | 0 => noTokenIn readingQuoted start p "found unexpected end of stream"
  | fuel + 1 => do
    if p.peek == (if double then '"' else '\'') then return (sofar, p.step)
    else
      let (blanks, p) ← quotedSpaces start p
      let (text, p) ← quotedText double start [] p p.budget
      quotedRest double start (sofar ++ blanks ++ text) p fuel

/-- A quoted scalar, read at its opening quote. -/
def quoted (double : Bool) (p : Position) : Except ReadError (String × Position) := do
  let start := p.mark
  let p := p.step
  let (first, p) ← quotedText double start [] p p.budget
  let (text, p) ← quotedRest double start first p p.budget
  return (String.ofList text, p)

/-! ## Plain scalars -/

/-- Line breaks inside a plain scalar; none if a mark between documents follows. -/
def plainBreaks (sofar : List Char) (p : Position) : Nat → Option (List Char) × Position
  | 0 => (some sofar, p)
  | fuel + 1 =>
    if p.peek == ' ' then plainBreaks sofar p.step fuel
    else if isBreak p.peek then
      let (b, p) := p.lineBreak
      if p.atSeparator then (none, p) else plainBreaks (sofar ++ b) p fuel
    else (some sofar, p)

/-- Blanks and line breaks inside a plain scalar, and whether there was a line
break. An empty result ends the scalar. -/
def plainSpaces (p : Position) : List Char × Bool × Position :=
  let (blanks, p) := p.takeWhile (· == ' ')
  if isBreak p.peek then
    let (b, p) := p.lineBreak
    if p.atSeparator then ([], true, p)
    else
      match plainBreaks [] p p.budget with
      | (none, p) => ([], true, p)
      | (some breaks, p) => (fold b breaks, true, p)
  else (blanks, false, p)

/-- How many characters of a plain scalar stand in front of the next gap. -/
def plainLength (flow : Bool) : List Char → Nat
  | [] => 0
  | c :: rest =>
    let next := rest.headD endMark
    if isGap c then 0
    else if c == ':' && (isGap next || (flow && ",[]\x7b\x7d".toList.contains next)) then 0
    else if flow && ",?[]\x7b\x7d".toList.contains c then 0
    else plainLength flow rest + 1

/-- A plain scalar: its text, whether a key may begin after it if that has changed,
and the position after it. -/
def plainFrom (flow : Bool) (indent : Int) (spaces sofar : List Char) (keyMayFollow : Option Bool)
    (p : Position) : Nat → List Char × Option Bool × Position
  | 0 => (sofar, keyMayFollow, p)
  | fuel + 1 =>
    let n := if p.peek == '#' then 0 else plainLength flow p.rest
    if n = 0 then (sofar, keyMayFollow, p)
    else
      let sofar := sofar ++ spaces ++ p.rest.take n
      let (spaces, broke, q) := plainSpaces (p.advance n)
      let keyMayFollow := some broke
      if spaces.isEmpty || q.peek == '#' || (!flow && (q.column : Int) < indent) then
        (sofar, keyMayFollow, q)
      else plainFrom flow indent spaces sofar keyMayFollow q fuel

/-- A plain scalar. -/
def plain (flow : Bool) (indent : Int) (p : Position) : String × Option Bool × Position :=
  let (text, keyMayFollow, p) := plainFrom flow indent [] [] none p p.budget
  (String.ofList text, keyMayFollow, p)

/-! ## Block scalars -/

/-- What happens to the line breaks at the end of a block scalar. -/
inductive Chomp where
  | strip
  | clip
  | keep
deriving DecidableEq, Repr

/-- The sign for what happens at the end. -/
def chomp? : Char → Option Chomp
  | '+' => some .keep
  | '-' => some .strip
  | _ => none

/-- The digit for the depth of a block scalar. -/
def depth? (c : Char) : Option Nat :=
  if c.isDigit then some (c.toNat - '0'.toNat) else none

/-- What is going on inside a block scalar. -/
def readingBlock : String := "while scanning a block scalar"

/-- A sign for what happens at the end, if there is one. -/
def blockChomp (p : Position) : Option Chomp × Position :=
  match chomp? p.peek with
  | some c => (some c, p.step)
  | none => (none, p)

/-- A digit for the depth, if there is one. -/
def blockDepth (start : Mark) (p : Position) : Except ReadError (Option Nat × Position) :=
  match depth? p.peek with
  | some 0 =>
    noTokenIn readingBlock start p
      "expected indentation indicator in the range 1-9, but found 0"
  | some d => .ok (some d, p.step)
  | none => .ok (none, p)

/-- The signs behind the indicator of a block scalar, in either order. -/
def blockSigns (start : Mark) (p : Position) :
    Except ReadError ((Chomp × Option Nat) × Position) := do
  let (early, p) := blockChomp p
  let (depth, p) ← blockDepth start p
  let (late, p) := if early.isNone && depth.isSome then blockChomp p else (none, p)
  if !isSpaceOrEnd p.peek then
    noTokenIn readingBlock start p
      (Complaint.expected "chomping or indentation indicators" p.peek)
  else return (((early.or late).getD .clip, depth), p)

/-- The rest of a line that may only hold a comment. -/
def ignoredLine (activity : String) (start : Mark) (p : Position) : Except ReadError Position :=
  let p := p.skipSpaces.skipComment
  if !isBreakOrEnd p.peek then
    noTokenIn activity start p (Complaint.expected "a comment or a line break" p.peek)
  else .ok p.lineBreak.2

/-- The empty lines in front of a block scalar, and the deepest column in them. -/
def blockIndentation (sofar : List Char) (deepest : Nat) (p : Position) :
    Nat → List Char × Nat × Position
  | 0 => (sofar, deepest, p)
  | fuel + 1 =>
    if p.peek == ' ' then
      let p := p.step
      blockIndentation sofar (max deepest p.column) p fuel
    else if isBreak p.peek then
      let (b, p) := p.lineBreak
      blockIndentation (sofar ++ b) deepest p fuel
    else (sofar, deepest, p)

/-- Blanks up to a column. -/
def spacesUpTo (indent : Int) (p : Position) : Nat → Position
  | 0 => p
  | fuel + 1 =>
    if (p.column : Int) < indent && p.peek == ' ' then spacesUpTo indent p.step fuel else p

/-- Empty lines inside a block scalar. -/
def blockBreaks (indent : Int) (sofar : List Char) (p : Position) : Nat → List Char × Position
  | 0 => (sofar, p)
  | fuel + 1 =>
    let p := spacesUpTo indent p p.budget
    if isBreak p.peek then
      let (b, p) := p.lineBreak
      blockBreaks indent (sofar ++ b) p fuel
    else (sofar, p)

/-- The lines of a block scalar: their text, the last line break, the empty lines
after it, and the position after them. -/
def blockLines (folded : Bool) (indent : Int) (sofar lineBreak breaks : List Char) (p : Position) :
    Nat → List Char × List Char × List Char × Position
  | 0 => (sofar, lineBreak, breaks, p)
  | fuel + 1 =>
    if (p.column : Int) = indent && !p.atEnd then
      let startsWithBlank := p.peek == ' ' || p.peek == '\t'
      let (line, p) := p.takeWhile (!isBreak ·)
      let sofar := sofar ++ breaks ++ line
      let (b, p) := p.lineBreak
      let (breaks, p) := blockBreaks indent [] p p.budget
      if (p.column : Int) = indent && !p.atEnd then
        let blank := p.peek == ' ' || p.peek == '\t'
        let joint :=
          if folded && b == ['\n'] && !startsWithBlank && !blank then
            if breaks.isEmpty then [' '] else []
          else b
        blockLines folded indent (sofar ++ joint) b breaks p fuel
      else (sofar, b, breaks, p)
    else (sofar, lineBreak, breaks, p)

/-- A block scalar, read at its indicator inside a block of the given column. -/
def block (folded : Bool) (outer : Int) (p : Position) : Except ReadError (String × Position) := do
  let start := p.mark
  let ((chomp, depth), p) ← blockSigns start p.step
  let p ← ignoredLine readingBlock start p
  let least := max 1 (outer + 1)
  let (indent, breaks, p) :=
    match depth with
    | none =>
      let (breaks, deepest, p) := blockIndentation [] 0 p p.budget
      (max least deepest, breaks, p)
    | some d =>
      let indent := least + d - 1
      let (breaks, p) := blockBreaks indent [] p p.budget
      (indent, breaks, p)
  let (text, lineBreak, breaks, p) := blockLines folded indent [] [] breaks p p.budget
  let tail :=
    match chomp with
    | .strip => []
    | .clip => lineBreak
    | .keep => lineBreak ++ breaks
  return (String.ofList (text ++ tail), p)

end Scalar

/-! ## Names, tags and directives -/

namespace Token

/-- What is said where a name does not begin, or does not end. -/
def badName (c : Char) : String :=
  Complaint.expected "alphabetic or numeric character" c

/-- The name of an anchor or an alias, read at its indicator. -/
def anchorName (activity : String) (p : Position) : Except ReadError (String × Position) :=
  let start := p.mark
  let (name, p) := p.step.takeWhile isNameChar
  if name.isEmpty || !(isGap p.peek || "?:,]\x7d%@\x60".toList.contains p.peek) then
    noTokenIn activity start p (badName p.peek)
  else .ok (String.ofList name, p)

/-- A handle of a tag, as a part of something that has begun. -/
def tagHandle (whole : String) (start : Mark) (p : Position) :
    Except ReadError (String × Position) :=
  let refuse (p : Position) : Except ReadError (String × Position) :=
    noTokenIn ("while scanning a " ++ whole) start p (Complaint.expected "'!'" p.peek)
  if p.peek != '!' then refuse p
  else if p.peekAt 1 == ' ' then .ok ("!", p.step)
  else
    let (name, q) := p.step.takeWhile isNameChar
    if q.peek != '!' then refuse q else .ok (String.ofList ('!' :: name ++ ['!']), q.step)

/-- A character of an address. -/
def isUriChar (c : Char) : Bool :=
  c.isAlphanum || "-;/?:@&=+$,_.!~*'()[]".toList.contains c

/-- Bytes that are written with percent signs. -/
def percentBytes (whole : String) (start : Mark) (sofar : List UInt8) (p : Position) :
    Nat → Except ReadError ((List UInt8) × Position)
  | 0 => .ok (sofar, p)
  | fuel + 1 =>
    if p.peek == '%' then
      let p := p.step
      let digits := (p.rest.take 2).takeWhile isHexDigit
      if digits.length < 2 then
        noTokenIn ("while scanning a " ++ whole) start p
          (Complaint.expected "URI escape sequence of 2 hexadecimal numbers"
            (p.peekAt digits.length))
      else percentBytes whole start (sofar ++ [UInt8.ofNat (hexValue digits)]) (p.advance 2) fuel
    else .ok (sofar, p)

/-- The parts of an address. -/
def uriParts (whole : String) (start : Mark) (sofar : List Char) (p : Position) :
    Nat → Except ReadError ((List Char) × Position)
  | 0 => .ok (sofar, p)
  | fuel + 1 => do
    let (part, p) := p.takeWhile isUriChar
    let sofar := sofar ++ part
    if p.peek == '%' then
      let (bytes, q) ← percentBytes whole start [] p p.budget
      match Text.decodeUtf8 bytes with
      | none =>
        noTokenIn ("while scanning a " ++ whole) start p
          (((Text.utf8Fault? bytes).map (·.message)).getD "")
      | some more => uriParts whole start (sofar ++ more) q fuel
    else return (sofar, p)

/-- An address, which is not empty. -/
def uri (whole : String) (start : Mark) (p : Position) : Except ReadError (String × Position) := do
  let (text, q) ← uriParts whole start [] p p.budget
  if q.index = p.index then
    noTokenIn ("while parsing a " ++ whole) start p (Complaint.expected "URI" p.peek)
  else return (String.ofList text, q)

/-- Whether a tag has a handle of its own: an exclamation mark before its end. -/
def hasHandle : List Char → Bool
  | [] => false
  | c :: rest => if isSpaceOrEnd c then false else c == '!' || hasHandle rest

/-- A tag, read at its indicator. -/
def writtenTag (p : Position) : Except ReadError (WrittenTag × Position) := do
  let c := p.peekAt 1
  let start := p.mark
  let (t, p) ←
    if c == '<' then do
      let (suffix, p) ← uri "tag" start (p.advance 2)
      if p.peek != '>' then
        noTokenIn "while parsing a tag" start p (Complaint.expected "'>'" p.peek)
      else pure (WrittenTag.mk none suffix, p.step)
    else if isGap c then pure (WrittenTag.mk none "!", p.step)
    else do
      let (handle, p) ←
        if hasHandle p.step.rest then tagHandle "tag" start p else pure ("!", p.step)
      let (suffix, p) ← uri "tag" start p
      pure (WrittenTag.mk (some handle) suffix, p)
  if !isSpaceOrEnd p.peek then
    noTokenIn "while scanning a tag" start p (Complaint.expected "' '" p.peek)
  else return (t, p)

/-- What is going on inside a directive. -/
def readingDirective : String := "while scanning a directive"

/-- A number of a version. -/
def versionNumber (start : Mark) (p : Position) : Except ReadError (Nat × Position) :=
  let (digits, p) := p.takeWhile Char.isDigit
  if digits.isEmpty then
    noTokenIn readingDirective start p (Complaint.expected "a digit" p.peek)
  else if Text.decimalLimit < digits.length then
    .error (.value (.integerTooLong digits.length))
  else .ok (Text.ofDigits 10 (digits.filterMap (Text.digitIn? 10)), p)

/-- A directive, read at its indicator. -/
def writtenDirective (p : Position) : Except ReadError (Directive × Position) := do
  let start := p.mark
  let refuse (what : String) (p : Position) : Except ReadError (Directive × Position) :=
    noTokenIn readingDirective start p (Complaint.expected what p.peek)
  let (name, p) := p.step.takeWhile isNameChar
  if name.isEmpty || !isSpaceOrEnd p.peek then
    noTokenIn readingDirective start p (badName p.peek)
  else
    let (d, p) ←
      if name = "YAML".toList then do
        let (major, p) ← versionNumber start p.skipSpaces
        if p.peek != '.' then refuse "a digit or '.'" p
        else
          let (_, p) ← versionNumber start p.step
          if !isSpaceOrEnd p.peek then refuse "a digit or ' '" p
          else pure (Directive.version major, p)
      else if name = "TAG".toList then do
        let (handle, p) ← tagHandle "directive" start p.skipSpaces
        if p.peek != ' ' then refuse "' '" p
        else
          let (written, p) ← uri "directive" start p.skipSpaces
          if !isSpaceOrEnd p.peek then refuse "' '" p
          else pure (Directive.tag handle written, p)
      else pure (Directive.other, p.skipWhile (!isBreak ·))
    let p ← Scalar.ignoredLine readingDirective start p
    return (d, p)

end Token

end SecretScan.Yaml

import SecretScan.Console.Markup
import SecretScan.Text.Blank
import SecretScan.Text.LetterCase
import SecretScan.Text.Search

/-!
# A simple console

This console takes the style of a text from tags in square brackets. A tag begins with a
small letter, a number sign, a slash or an at sign, and goes on to the next closing
bracket without another opening one. A slash closes the style that it names, or the last
one if it names none; a style that is not open cannot be closed.

An odd number of backslashes before a tag makes it ordinary text, and each pair of them
stands for one. Before a bracket that begins no tag, one backslash is dropped.

It shows no bell, and nothing that would move its cursor within a line. Other consoles do
more: they have names for pictures between colons, tags with an at sign that call for an
action, and colours that go by several names.
-/

namespace SecretScan.Console.Tags

/-- Whether a character may begin a tag. -/
def beginsTag (c : Char) : Bool :=
  ('a' ≤ c && c ≤ 'z') || c == '#' || c == '/' || c == '@'

/-- The text up to a closing bracket, if no opening one comes before. -/
def upToClose? : List Char → Option (List Char)
  | [] => none
  | ']' :: _ => some []
  | '[' :: _ => none
  | c :: rest => (upToClose? rest).map (c :: ·)

/-- The text in the brackets of a tag at the start of a text. -/
def tag? : List Char → Option (List Char)
  | '[' :: c :: rest => if beginsTag c then (upToClose? rest).map (c :: ·) else none
  | _ => none

/-- The number of backslashes at the start of a text, and the text in the tag that
follows them. -/
def slashedTag? : List Char → Option (Nat × List Char)
  | '\\' :: rest => (slashedTag? rest).map fun (slashes, body) => (slashes + 1, body)
  | s => (tag? s).map fun body => (0, body)

/-- A tag with its brackets. -/
def written (body : List Char) : List Char := '[' :: body ++ [']']

/-! ## Styles -/

/-- The attributes of a style in the order in which they are written, each with the
names that it goes by. -/
def attributes : List (String × List String) :=
  [("bold", ["bold", "b"]), ("dim", ["dim", "d"]), ("italic", ["italic", "i"]),
   ("underline", ["underline", "u"]), ("blink", ["blink"]), ("blink2", ["blink2"]),
   ("reverse", ["reverse", "r"]), ("conceal", ["conceal", "c"]), ("strike", ["strike", "s"]),
   ("underline2", ["underline2", "uu"]), ("frame", ["frame"]), ("encircle", ["encircle"]),
   ("overline", ["overline", "o"])]

/-- The words of a text. -/
def words (s : List Char) : List String :=
  ((Text.splitAt ' ' (s.map fun c => if Text.isBlank c then ' ' else c)).filter
    (!·.isEmpty)).map String.ofList

/-- The name of a style, the same for all ways to write the same attributes. -/
def styleName (s : List Char) : String :=
  let name := Text.lowerText (String.ofList (Text.trimBlanks s))
  let parts := words name.toList
  if parts.all fun w => attributes.any fun (_, names) => names.contains w then
    Text.join " " ((attributes.filter fun (_, names) => parts.any names.contains).map (·.1))
  else name

/-- Closes the last style with a name. -/
def close? (name : String) : List String → Option (List String)
  | [] => none
  | other :: rest =>
    if other = name then some rest else (close? name rest).map (other :: ·)

/-- The open styles after a tag, the last one first. -/
def follow? (opened : List String) (body : List Char) : Option (List String) :=
  match body.takeWhile (· ≠ '=') with
  | '/' :: name =>
    if (Text.trimBlanks name).isEmpty then
      match opened with
      | [] => none
      | _ :: rest => some rest
    else close? (styleName name) opened
  | name => some (styleName name :: opened)

/-! ## Reading and escaping -/

/-- The text that is left of marked-up text, of which some characters are yet to be
passed over. -/
def plainFrom? : List String → Nat → List Char → Option (List Char)
  | _, _, [] => some []
  | opened, skip + 1, _ :: rest => plainFrom? opened skip rest
  | opened, 0, c :: rest =>
    match slashedTag? (c :: rest) with
    | some (slashes, body) =>
      let shown := List.replicate (slashes / 2) '\\'
      let skip := slashes + body.length + 1
      if slashes % 2 = 1 then (plainFrom? opened skip rest).map (shown ++ written body ++ ·)
      else
        match follow? opened body with
        | some opened => (plainFrom? opened skip rest).map (shown ++ ·)
        | none => none
    | none =>
      if c = '\\' && rest.head? = some '[' then plainFrom? opened 0 rest
      else (plainFrom? opened 0 rest).map (c :: ·)

/-- Whether a character is shown. -/
def isShown (c : Char) : Bool :=
  let n := c.toNat
  !(n == 0x07 || n == 0x08 || n == 0x0B || n == 0x0C || n == 0x0D)

/-- What is shown of a text without markup. -/
def shown (s : List Char) : List Char := s.filter isShown

/-- What is shown of marked-up text, if its tags can be followed. -/
def plain? (s : List Char) : Option (List Char) := (plainFrom? [] 0 s).map shown

/-- Makes tags ordinary text; some characters are yet to be passed over. -/
def escapeFrom : Nat → List Char → List Char
  | _, [] => []
  | skip + 1, _ :: rest => escapeFrom skip rest
  | 0, c :: rest =>
    match slashedTag? (c :: rest) with
    | some (slashes, body) =>
      List.replicate (2 * slashes + 1) '\\' ++ written body ++
        escapeFrom (slashes + body.length + 1) rest
    | none => c :: escapeFrom 0 rest

/-- Whether a text ends in a single backslash. -/
def endsInSlash (s : List Char) : Bool :=
  match s.reverse with
  | '\\' :: '\\' :: _ => false
  | '\\' :: _ => true
  | _ => false

/-- A text whose tags are ordinary text, and which can stand before a tag. -/
def escape (s : List Char) : List Char :=
  let escaped := escapeFrom 0 s
  if endsInSlash escaped then escaped ++ ['\\'] else escaped

/-- The console for which nothing else is chosen. -/
instance (priority := low) console : Markup where
  shown? s := (plain? s.toList).map String.ofList
  escape s := String.ofList (escape s.toList)
  unmarked s := String.ofList (shown s.toList)

end SecretScan.Console.Tags

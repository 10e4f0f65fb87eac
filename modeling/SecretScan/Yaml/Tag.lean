import SecretScan.Text.Search
import SecretScan.Yaml.Time

/-!
# Tags

A tag says what a node is. Most scalars have none; what they are is then evident
from their text, or they are texts.
-/

namespace SecretScan.Yaml

/-- What a node is. -/
inductive Tag where
  | null
  | bool
  | int
  | float
  | binary
  | timestamp
  | omap
  | pairs
  | set
  | str
  | seq
  | map
  | merge
  | value
  /-- A tag that is not known. -/
  | other (name : String)
deriving DecidableEq, Repr

namespace Tag

/-- The known tags by the last parts of their names. -/
def known : List (String × Tag) :=
  [("null", null), ("bool", bool), ("int", int), ("float", float), ("binary", binary),
   ("timestamp", timestamp), ("omap", omap), ("pairs", pairs), ("set", set), ("str", str),
   ("seq", seq), ("map", map), ("merge", merge), ("value", value)]

/-- What the names of the known tags begin with. -/
def standard : String := "tag:yaml.org,2002:"

/-- The tag with a name. -/
def ofName (name : String) : Tag :=
  ((known.find? fun (n, _) => standard ++ n = name).map (·.2)).getD (other name)

/-- The full name of a tag. -/
def name : Tag → String
  | other name => name
  | t => ((known.find? fun (_, u) => u = t).map fun (n, _) => standard ++ n).getD ""

/-! ## Evident tags -/

/-- The words for truth values. -/
def boolWords : List String :=
  ["yes", "Yes", "YES", "no", "No", "NO", "true", "True", "TRUE", "false", "False", "FALSE",
   "on", "On", "ON", "off", "Off", "OFF"]

/-- The words for nothing. -/
def nullWords : List String := ["~", "null", "Null", "NULL", ""]

/-- A text without its sign. -/
def dropSign : List Char → List Char
  | '-' :: rest => rest
  | '+' :: rest => rest
  | s => s

/-- A digit or a low line. -/
def isDigitOrLine (c : Char) : Bool := c.isDigit || c == '_'

/-- A digit below eight or a low line. -/
def isOctalOrLine (c : Char) : Bool := ('0' ≤ c && c ≤ '7') || c == '_'

/-- A hexadecimal digit or a low line. -/
def isHexOrLine (c : Char) : Bool :=
  isDigitOrLine c || ('a' ≤ c && c ≤ 'f') || ('A' ≤ c && c ≤ 'F')

/-- Digits and low lines, a digit first. -/
def isDigits : List Char → Bool
  | c :: rest => c.isDigit && rest.all isDigitOrLine
  | [] => false

/-- The same without a zero in front. -/
def isPositiveDigits : List Char → Bool
  | c :: rest => c.isDigit && c != '0' && rest.all isDigitOrLine
  | [] => false

/-- A part of a number that counts in sixties. -/
def isSixtieth : List Char → Bool
  | [c] => c.isDigit
  | [c, d] => '0' ≤ c && c ≤ '5' && d.isDigit
  | _ => false

/-- Whether a text is evidently a whole number. -/
def isInt (s : List Char) : Bool :=
  match dropSign s with
  | ['0'] => true
  | '0' :: 'b' :: c :: rest => (c :: rest).all fun d => d == '0' || d == '1' || d == '_'
  | '0' :: 'x' :: c :: rest => (c :: rest).all isHexOrLine
  | '0' :: rest => rest.all isOctalOrLine
  | body =>
    isPositiveDigits body ||
      match Text.splitAt ':' body with
      | first :: part :: parts => isPositiveDigits first && (part :: parts).all isSixtieth
      | _ => false

/-- An exponent: a letter, a sign and digits. -/
def isExponent : List Char → Bool
  | e :: sign :: c :: rest =>
    (e == 'e' || e == 'E') && (sign == '-' || sign == '+') && (c :: rest).all Char.isDigit
  | _ => false

/-- The digits after a point, and an exponent if there is one. -/
def isFraction (s : List Char) : Bool :=
  match s.dropWhile isDigitOrLine with
  | [] => true
  | rest => isExponent rest

/-- Whether a text is evidently a number with a fraction. -/
def isFloat (s : List Char) : Bool :=
  let body := dropSign s
  let whole := body.takeWhile (· != '.')
  match body.dropWhile (· != '.') with
  | '.' :: rest =>
    (isDigits whole && isFraction rest) ||
      (match Text.splitAt ':' whole with
        | first :: part :: parts =>
          isDigits first && (part :: parts).all isSixtieth && rest.all isDigitOrLine
        | _ => false) ||
      (whole.isEmpty &&
        (["inf", "Inf", "INF"].any (·.toList = rest) ||
          (body.length == s.length &&
            ((rest.headD ' ').isDigit && isFraction rest ||
              ["nan", "NaN", "NAN"].any (·.toList = rest)))))
  | _ => false

/-- The tag that is evident from a text of one line. -/
def evidentInLine (s : List Char) : Tag :=
  let word := String.ofList s
  if boolWords.contains word then bool
  else if isFloat s then float
  else if isInt s then int
  else if word = "<<" then merge
  else if nullWords.contains word then null
  else if WrittenTime.isEvident s then timestamp
  else if word = "=" then value
  else str

/-- The tag that is evident from a text. A line break at its end is overlooked,
except after nothing. -/
def evident (s : List Char) : Tag :=
  match s.getLast? with
  | some '\n' => if s.length = 1 then str else evidentInLine s.dropLast
  | _ => evidentInLine s

end Tag

end SecretScan.Yaml

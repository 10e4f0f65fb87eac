import SecretScan.Text.LetterCase
import SecretScan.Text.Search
import SecretScan.Yaml.Tag
import SecretScan.Yaml.Value

/-!
# Values of scalars

What the text of a scalar is worth under each tag. The tag may have been given by
hand, so the text need not have the form that the tag promises.
-/

namespace SecretScan.Yaml.ScalarValue

/-- The words for truth values, in lower case. -/
def boolWords : List (String × Bool) :=
  [("yes", true), ("no", false), ("true", true), ("false", false), ("on", true), ("off", false)]

/-- A truth value. -/
def bool (s : String) : Except ReadError Value :=
  match boolWords.lookup (Text.lowerText s) with
  | some b => .ok (.bool b)
  | none => .error (.bare .unknownWord)

/-- An integer in a base. -/
def integer (base : Nat) (s : List Char) : Except ReadError Int :=
  match Text.readInteger base s with
  | .ok n => .ok n
  | .error .malformed => .error (.value (.notAnInteger base (String.ofList s)))
  | .error (.tooLong digits) => .error (.value (.integerTooLong digits))

/-- The sum of parts, each of which counts sixty times as much as the next. -/
def sixtieths (parts : List Int) : Int :=
  parts.foldl (fun n part => n * 60 + part) 0

/-- A whole number: binary, octal, hexadecimal, in parts of sixty, or decimal. -/
def int (s : String) : Except ReadError Value := do
  let s := s.toList.filter (· != '_')
  let (negative, body) :=
    match s with
    | '-' :: rest => (true, rest)
    | '+' :: rest => (false, rest)
    | _ => (false, s)
  let n ←
    match body with
    | [] => throw (.bare .emptyNumber)
    | ['0'] => pure 0
    | '0' :: 'b' :: rest => integer 2 rest
    | '0' :: 'x' :: rest => integer 16 rest
    | '0' :: _ => integer 8 body
    | _ =>
      if body.contains ':' then return .int (← signed negative body) else integer 10 body
  return .int (if negative then -n else n)
where
  /-- A number in parts of sixty. -/
  signed (negative : Bool) (body : List Char) : Except ReadError Int := do
    let n := sixtieths (← (Text.splitAt ':' body).mapM (integer 10))
    return if negative then -n else n

/-- A number with a fraction. -/
def fraction (s : List Char) : Except ReadError FloatValue :=
  match FloatValue.ofText? s with
  | some x => .ok x
  | none => .error (.value (.notAFloat (String.ofList s)))

/-- The sum of fractions, last part first, each counting sixty times as much as the
one before. What a part counts is rounded before the part is multiplied by it. -/
def sumOfParts (total : FloatValue) (base : Nat) : List FloatValue → Except ReadError FloatValue
  | [] => .ok total
  | x :: rest =>
    match FloatValue.ofNat? base with
    | some factor => sumOfParts (total.add (x.mul factor)) (base * 60) rest
    | none => .error (.bare .factorTooLarge)

/-- A number with a fraction, perhaps in parts of sixty. -/
def float (s : String) : Except ReadError Value := do
  let s := (Text.lowerText s).toList.filter (· != '_')
  let (negative, body) :=
    match s with
    | '-' :: rest => (true, rest)
    | '+' :: rest => (false, rest)
    | _ => (false, s)
  if s.isEmpty then throw (.bare .emptyNumber)
  let x ←
    if body = ".inf".toList then pure (.infinite false)
    else if body = ".nan".toList then return .float .nan
    else if body.contains ':' then do
      let parts ← (Text.splitAt ':' body).mapM fraction
      sumOfParts .zero 1 parts.reverse
    else fraction body
  return .float (if negative then x.negate else x)

/-- The six bits of a character of encoded bytes. -/
def sixBits? (c : Char) : Option Nat :=
  if c.isUpper then some (c.toNat - 'A'.toNat)
  else if c.isLower then some (c.toNat - 'a'.toNat + 26)
  else if c.isDigit then some (c.toNat - '0'.toNat + 52)
  else if c == '+' then some 62
  else if c == '/' then some 63
  else none

/-- The bytes of characters that carry six bits each. `place` counts the characters of
the current group, `left` holds the bits not used yet, `pads` counts padding. Characters
without a meaning are skipped; enough padding ends the text. What is given besides the
bytes is the place at which the last group ends, which is zero if the group is whole. -/
def decode (place left pads : Nat) : List Char → List UInt8 × Nat
  | [] => ([], place)
  | c :: rest =>
    if c == '=' then
      if 2 ≤ place && 4 ≤ place + pads + 1 then ([], 0)
      else decode place left (if 2 ≤ place then pads + 1 else pads) rest
    else
      match sixBits? c with
      | none => decode place left pads rest
      | some n =>
        match place with
        | 0 => decode 1 n 0 rest
        | 1 => (decode 2 (n % 16) 0 rest).map (UInt8.ofNat (left * 4 + n / 16) :: ·) id
        | 2 => (decode 3 (n % 4) 0 rest).map (UInt8.ofNat (left * 16 + n / 4) :: ·) id
        | _ => (decode 0 0 0 rest).map (UInt8.ofNat (left * 64 + n) :: ·) id

/-- The failure of a text that stands for no bytes. -/
def noBytes (problem : String) : Except ReadError Value :=
  .error (.document { fault := .constructor, problem })

/-- The escaped form of a character outside of ASCII. -/
def escapedChar (c : Char) : String :=
  let n := c.toNat
  String.ofList
    (if n < 0x100 then '\\' :: 'x' :: Text.hexDigits n 2
      else if n < 0x10000 then '\\' :: 'u' :: Text.hexDigits n 4
      else '\\' :: 'U' :: Text.hexDigits n 8)

/-- What is said about the first characters of a text that are outside of ASCII. -/
def notAscii (s : List Char) : String :=
  let start := (s.takeWhile fun c => c.toNat < 0x80).length
  let wrong := (s.drop start).takeWhile fun c => 0x80 ≤ c.toNat
  "failed to convert base64 data into ascii: 'ascii' codec can't encode " ++
    (match wrong with
      | [c] => "character '" ++ escapedChar c ++ "' in position " ++ toString start
      | _ => s!"characters in position {start}-{start + wrong.length - 1}") ++
    ": ordinal not in range(128)"

/-- What is said about characters that do not make up whole bytes, given the place in the
last group at which they end. -/
def notWhole (bytes : Nat) (place : Nat) : String :=
  "failed to decode base64 data: " ++
    if place = 1 then
      s!"Invalid base64-encoded data: number of data characters ({bytes / 3 * 4 + 1}) " ++
        "cannot be 1 more than a multiple of 4"
    else "Incorrect padding"

/-- Bytes that are written as characters of six bits each. -/
def binary (s : String) : Except ReadError Value :=
  if s.toList.any fun c => 0x80 ≤ c.toNat then noBytes (notAscii s.toList)
  else
    match decode 0 0 0 s.toList with
    | (bs, 0) => .ok (.bytes bs)
    | (bs, place) => noBytes (notWhole bs.length place)

/-- A date or a moment. A line break at the end is overlooked. -/
def timestamp (s : String) : Except ReadError Value := do
  let s := s.toList
  let s := if s.getLast? = some '\n' then s.dropLast else s
  match WrittenTime.ofText? s with
  | none => throw (.bare .noTime)
  | some t =>
    match t.clock with
    | none =>
      match Day.make t.year t.month t.day with
      | .ok d => return .day d
      | .error e => throw (.value e)
    | some clock =>
      match Moment.make t clock with
      | .ok m => return .moment m
      | .error e => throw (.value e)

/-- The value of a scalar under a tag; none for the tags of collections. -/
def ofText (tag : Tag) (s : String) : Option (Except ReadError Value) :=
  match tag with
  | .null => some (.ok .null)
  | .bool => some (bool s)
  | .int => some (int s)
  | .float => some (float s)
  | .binary => some (binary s)
  | .timestamp => some (timestamp s)
  | .str => some (.ok (.text s))
  | _ => none

end SecretScan.Yaml.ScalarValue

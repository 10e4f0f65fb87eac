import SecretScan.Text.Blank
import SecretScan.Text.Numeral

/-!
# Reading integers

An integer may stand between blanks, have a sign, and group its digits with
single low lines; digits of every script count. A base other than ten may be
announced by its usual mark. Decimal numerals longer than `decimalLimit` are
refused, because their conversion is too slow to be safe.
-/

namespace SecretScan.Text

/-- The most digits that a decimal numeral may have. -/
def decimalLimit : Nat := 4300

/-- Why a text is no integer. -/
inductive IntegerError where
  /-- The text does not have the form of an integer. -/
  | malformed
  /-- The numeral has this many digits, which is too many. -/
  | tooLong (digits : Nat)
deriving DecidableEq, Repr

/-- What is said about a decimal numeral with too many digits. -/
def tooLongMessage (digits : Nat) : String :=
  s!"Exceeds the limit ({decimalLimit} digits) for integer string conversion: " ++
    s!"value has {digits} digits; use sys.set_int_max_str_digits() to increase the limit"

/-- The value of a digit in a base up to thirty-six. -/
def digitIn? (base : Nat) (c : Char) : Option Nat :=
  let value? :=
    match digitValue? c with
    | some d => some d
    | none =>
      if 'a' ≤ c && c ≤ 'z' then some (c.toNat - 'a'.toNat + 10)
      else if 'A' ≤ c && c ≤ 'Z' then some (c.toNat - 'A'.toNat + 10)
      else none
  value?.filter (· < base)

/-- Digits with single low lines between them: their values, first to last. -/
def groupedDigits? (base : Nat) : List Char → Option (List Nat)
  | [] => none
  | [c] => (digitIn? base c).map ([·])
  | c :: '_' :: rest =>
    match digitIn? base c, groupedDigits? base rest with
    | some d, some ds => some (d :: ds)
    | _, _ => none
  | c :: rest =>
    match digitIn? base c, groupedDigits? base rest with
    | some d, some ds => some (d :: ds)
    | _, _ => none

/-- The number that a list of digits stands for. -/
def ofDigits (base : Nat) (digits : List Nat) : Nat :=
  digits.foldl (fun n d => n * base + d) 0

/-- The letter that announces a base. -/
def baseMark? : Nat → Option Char
  | 2 => some 'b'
  | 8 => some 'o'
  | 16 => some 'x'
  | _ => none

/-- Drops the announcement of a base, with the low line that may follow it. -/
def dropBaseMark (base : Nat) : List Char → List Char
  | '0' :: m :: rest =>
    if some m.toLower == baseMark? base then
      match rest with
      | '_' :: more => more
      | _ => rest
    else '0' :: m :: rest
  | s => s

/-- Reads an integer in the given base. -/
def readInteger (base : Nat) (s : List Char) : Except IntegerError Int :=
  let (negative, body) :=
    match trimBlanks s with
    | '-' :: rest => (true, rest)
    | '+' :: rest => (false, rest)
    | rest => (false, rest)
  match groupedDigits? base (dropBaseMark base body) with
  | none => .error .malformed
  | some ds =>
    if base = 10 && decimalLimit < ds.length then .error (.tooLong ds.length)
    else .ok (if negative then -(ofDigits base ds : Int) else ofDigits base ds)

end SecretScan.Text

import SecretScan.Script.Token

/-!
# Numbers of a script

Whole numbers in four bases, fractions, and imaginary numbers. Digits may be grouped
by single low lines. A number ends where nothing that joins follows, with one
exception: some words may follow without a blank.
-/

namespace SecretScan.Script

/-- A digit of the hexadecimal system. -/
def isHexDigit (c : Char) : Bool :=
  c.isDigit || ('a' ≤ c && c ≤ 'f') || ('A' ≤ c && c ≤ 'F')

namespace Number

/-- What follows a run of digits that are grouped by single low lines. -/
def afterDigits (isDigit : Char → Bool) : List Char → Option (List Char)
  | '_' :: d :: rest => if isDigit d then afterDigits isDigit rest else none
  | ['_'] => none
  | c :: rest => if isDigit c then afterDigits isDigit rest else some (c :: rest)
  | [] => some []

/-- The words that may follow a number without a blank. -/
def followers : List (List Char) :=
  ["and", "else", "for", "or", "not"].map String.toList

/-- Whether a text may follow a number. -/
def mayFollow (s : List Char) : Bool :=
  match s with
  | [] => true
  | c :: rest =>
    !joins c ||
      (c == 'i' && (rest.head?.any fun d => d == 'f' || d == 'n' || d == 's')) ||
      followers.any fun word =>
        word.isPrefixOf s && !((s.drop word.length).head?.any joins)

/-- The end of a number, if it may end here. -/
def stop (s : List Char) : Option (List Char) :=
  if mayFollow s then some s else none

/-- The end of a number, after the letter that makes it imaginary if it is there. -/
def afterUnit : List Char → Option (List Char)
  | 'j' :: rest => stop rest
  | 'J' :: rest => stop rest
  | rest => stop rest

/-- What follows the exponent of a number, if there is one. -/
def afterExponent : List Char → Option (List Char)
  | [] => some []
  | c :: rest =>
    if c == 'e' || c == 'E' then
      match rest with
      | d :: more =>
        if d.isDigit then (afterDigits Char.isDigit more).bind afterUnit
        else if d == '+' || d == '-' then
          match more with
          | d :: more => if d.isDigit then (afterDigits Char.isDigit more).bind afterUnit else none
          | [] => none
        else stop (c :: rest)
      | [] => none
    else afterUnit (c :: rest)

/-- What follows a number, after its point. -/
def afterPoint : List Char → Option (List Char)
  | d :: rest =>
    if d.isDigit then (afterDigits Char.isDigit rest).bind afterExponent
    else afterExponent (d :: rest)
  | [] => some []

/-- Whether a whole number has a zero in front that does not belong there. -/
def hasLeadingZero (s : List Char) : Bool :=
  match s with
  | '0' :: rest => (rest.takeWhile fun c => c.isDigit || c == '_').any fun c => c != '0' && c != '_'
  | _ => false

/-- What follows a decimal number. -/
def afterDecimal (s : List Char) : Option (List Char) :=
  match s with
  | '.' :: rest => afterPoint rest
  | _ =>
    match afterDigits Char.isDigit s with
    | some ('.' :: rest) => afterPoint rest
    | some (c :: rest) =>
      if c == 'e' || c == 'E' then afterExponent (c :: rest)
      else if c == 'j' || c == 'J' then afterUnit (c :: rest)
      else if hasLeadingZero s then none
      else stop (c :: rest)
    | some [] => if hasLeadingZero s then none else some []
    | none => none

/-- What follows the digits behind the mark of a base. -/
def afterMarked (isDigit : Char → Bool) (s : List Char) : Option (List Char) :=
  let s :=
    match s with
    | '_' :: rest => rest
    | _ => s
  match s with
  | d :: rest => if isDigit d then (afterDigits isDigit rest).bind stop else none
  | [] => none

/-- What follows the number at the start of a text that begins with a digit, or with a
point and a digit. -/
def after (s : List Char) : Option (List Char) :=
  match s with
  | '0' :: m :: rest =>
    if m == 'x' || m == 'X' then afterMarked isHexDigit rest
    else if m == 'o' || m == 'O' then afterMarked (fun c => '0' ≤ c && c < '8') rest
    else if m == 'b' || m == 'B' then afterMarked (fun c => c == '0' || c == '1') rest
    else afterDecimal s
  | _ => afterDecimal s

/-- The most digits that a whole decimal number may have. -/
def digitLimit : Nat := 4300

/-- Whether a number is short enough to be read. Only whole decimal numbers have a
limit. -/
def isReadable (spelling : List Char) : Bool :=
  let digits := spelling.filter (· != '_')
  !digits.all Char.isDigit || digits.head? == some '0' || digits.length ≤ digitLimit

/-- Whether a number is imaginary. -/
def isImaginary (spelling : List Char) : Bool :=
  match spelling.getLast? with
  | some c => c == 'j' || c == 'J'
  | none => false

end Number

end SecretScan.Script

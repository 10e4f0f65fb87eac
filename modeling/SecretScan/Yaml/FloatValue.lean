import SecretScan.Text.Blank
import SecretScan.Text.Numeral

/-!
# Binary fractions

Numbers with a fraction are kept as a significand of at most fifty-three bits and a
power of two, the form in which they are usually stored, and all work on them is
done exactly on natural numbers and then rounded: to the nearest such number, and
to the one with an even significand when two are equally near.

`text` writes the fewest digits that read back as the same number, and of those the
ones nearest to it.
-/

namespace SecretScan.Yaml

/-- A number with a fraction. A finite one is `significand * 2 ^ power`. -/
inductive FloatValue where
  | finite (negative : Bool) (significand : Nat) (power : Int)
  | infinite (negative : Bool)
  | nan
deriving DecidableEq, Repr

namespace FloatValue

/-- The least power of two. -/
def leastPower : Int := -1074

/-- The greatest power of two. -/
def greatestPower : Int := 971

/-- Zero. -/
def zero : FloatValue := finite false 0 leastPower

/-- `n` times a power of two, as a fraction. -/
def scale (n : Nat) (power : Int) : Nat × Nat :=
  match power with
  | .ofNat p => (n * Nat.pow 2 p, 1)
  | .negSucc p => (n, Nat.pow 2 (p + 1))

/-- The quotient nearest to a fraction, the even one of two. -/
def nearest (num den : Nat) : Nat :=
  let q := num / den
  let r := num % den
  if 2 * r < den then q
  else if den < 2 * r then q + 1
  else if q % 2 = 0 then q else q + 1

/-- The number nearest to a positive fraction. -/
def ofFraction (negative : Bool) (num den : Nat) : FloatValue :=
  if num = 0 then finite negative 0 leastPower
  else
    let guess : Int := (num.log2 : Int) - den.log2 - 53
    let inRange := fun (p : Int) =>
      let (a, b) := scale 1 p
      num * b < den * a * Nat.pow 2 53
    let power := max leastPower (if inRange guess then guess else guess + 1)
    let (a, b) := scale 1 power
    let q := nearest (num * b) (den * a)
    let (q, power) := if q = Nat.pow 2 53 then (Nat.pow 2 52, power + 1) else (q, power)
    if greatestPower < power then infinite negative else finite negative q power

/-- The number nearest to a decimal number. Powers of ten beyond every limit are not
worked out. -/
def ofDecimal (negative : Bool) (digits : Nat) (exponent : Int) : FloatValue :=
  let size : Int := ((Nat.toDigits 10 digits).length : Int) + exponent
  if digits = 0 then finite negative 0 leastPower
  else if 400 < size then infinite negative
  else if size < -400 then finite negative 0 leastPower
  else
    match exponent with
    | .ofNat e => ofFraction negative (digits * Nat.pow 10 e) 1
    | .negSucc e => ofFraction negative digits (Nat.pow 10 (e + 1))

/-- The opposite number. -/
def negate : FloatValue → FloatValue
  | finite n s p => finite (!n) s p
  | infinite n => infinite (!n)
  | nan => nan

/-- The sum of two fractions with signs. -/
def addFractions (m n : Bool) (a b c d : Nat) : FloatValue :=
  let x : Int := if m then -(a * d : Int) else a * d
  let y : Int := if n then -(c * b : Int) else c * b
  ofFraction (x + y < 0) (x + y).natAbs (b * d)

/-- The sum. -/
def add : FloatValue → FloatValue → FloatValue
  | finite m s p, finite n t q =>
    let (a, b) := scale s p
    let (c, d) := scale t q
    addFractions m n a b c d
  | infinite m, infinite n => if m = n then infinite m else nan
  | infinite m, finite .. => infinite m
  | finite .., infinite n => infinite n
  | nan, _ => nan
  | _, nan => nan

/-- The product. -/
def mul : FloatValue → FloatValue → FloatValue
  | finite m s p, finite n t q =>
    let (a, b) := scale s p
    let (c, d) := scale t q
    ofFraction (m != n) (a * c) (b * d)
  | infinite m, infinite n => infinite (m != n)
  | infinite m, finite n t _ | finite n t _, infinite m =>
    if t = 0 then nan else infinite (m != n)
  | nan, _ => nan
  | _, nan => nan

/-- The number nearest to a whole number, unless that is beyond all of them. -/
def ofNat? (n : Nat) : Option FloatValue :=
  match ofFraction false n 1 with
  | infinite _ => none
  | x => some x

/-- Whether a number is not zero. -/
def isTrue : FloatValue → Bool
  | finite _ s _ => s != 0
  | _ => true

/-- The whole number that a number is, if it is one. -/
def whole? : FloatValue → Option Int
  | finite n s p =>
    let (a, b) := scale s p
    if a % b = 0 then some (if n then -((a / b : Nat) : Int) else (a / b : Nat)) else none
  | _ => none

/-! ## Reading -/

/-- The digits of a decimal number with an optional point, and how many of them stand
after the point. -/
def mantissa? (s : List Char) : Option (List Nat × Nat) :=
  let whole := s.takeWhile Text.isDigit
  let values := fun (t : List Char) => t.filterMap Text.digitValue?
  match s.dropWhile Text.isDigit with
  | [] => if whole.isEmpty then none else some (values whole, 0)
  | '.' :: rest =>
    if !rest.all Text.isDigit || (whole.isEmpty && rest.isEmpty) then none
    else some (values whole ++ values rest, rest.length)
  | _ => none

/-- A whole number with an optional sign. -/
def exponent? (s : List Char) : Option Int :=
  let (negative, digits) :=
    match s with
    | '-' :: rest => (true, rest)
    | '+' :: rest => (false, rest)
    | rest => (false, rest)
  if digits.isEmpty || !digits.all Text.isDigit then none
  else
    let n := (digits.filterMap Text.digitValue?).foldl (fun (n d : Nat) => n * 10 + d) 0
    some (if negative then -(n : Int) else n)

/-- The number that a text stands for. Blanks around it and a sign are allowed, as
are the words for infinity and for no number. -/
def ofText? (s : List Char) : Option FloatValue :=
  let s := (Text.trimBlanks s).map Char.toLower
  let (negative, body) :=
    match s with
    | '-' :: rest => (true, rest)
    | '+' :: rest => (false, rest)
    | rest => (false, rest)
  if body = "inf".toList || body = "infinity".toList then some (infinite negative)
  else if body = "nan".toList then some nan
  else do
    let front := body.takeWhile (· != 'e')
    let exponent ←
      match body.dropWhile (· != 'e') with
      | [] => some 0
      | _ :: rest => exponent? rest
    let (digits, places) ← mantissa? front
    let n := digits.foldl (fun n d => n * 10 + d) 0
    some (ofDecimal negative n (exponent - places))

/-! ## Writing -/

/-- Whether a decimal number `d * 10 ^ e` reads back as the number. -/
def readsBack (significand : Nat) (power : Int) (d : Nat) (e : Int) : Bool :=
  ofDecimal false d e == finite false significand power

/-- The least number of places, from `j` on, by which a fraction below one has to be
moved to reach one. -/
def placesToOne (num den j : Nat) : Nat → Nat
  | 0 => j
  | fuel + 1 => if den ≤ num * Nat.pow 10 j then j else placesToOne num den (j + 1) fuel

/-- The exponent of the first digit of a positive fraction. -/
def leadingExponent (num den : Nat) : Int :=
  if den ≤ num then ((Nat.toDigits 10 (num / den)).length : Int) - 1
  else -((placesToOne num den 1 400 : Nat) : Int)

/-- The digits that read back, from `n` digits on, with the exponent of the last one.
Of two neighbours with the same number of digits the nearer is taken, the even one if
they are equally near. -/
def shortestFrom (significand : Nat) (power : Int) (lead : Int) (n : Nat) : Nat → Nat × Int
  | 0 => (0, 0)
  | fuel + 1 =>
    let (num, den) := scale significand power
    let e : Int := lead - ((n - 1 : Nat) : Int)
    let (a, b) :=
      match e with
      | .ofNat e => (num, den * Nat.pow 10 e)
      | .negSucc e => (num * Nat.pow 10 (e + 1), den)
    let low := a / b
    let near := nearest a b
    let other := if near = low then low + 1 else low
    if readsBack significand power near e then (near, e)
    else if readsBack significand power other e then (other, e)
    else shortestFrom significand power lead (n + 1) fuel

/-- The shortest digits that read back; seventeen are always enough. -/
def shortest (significand : Nat) (power : Int) : Nat × Int :=
  let (num, den) := scale significand power
  shortestFrom significand power (leadingExponent num den) 1 17

/-- Zeros. -/
def zeros (n : Nat) : String := String.ofList (List.replicate n '0')

/-- Digits with the exponent of the last one, laid out: positional from a ten
thousandth up to sixteen places, with an exponent of at least two digits beyond. -/
def layOut (digits : Nat) (exponent : Int) : String :=
  let ds := toString digits
  let lead : Int := exponent + ds.length - 1
  if lead < -4 || 16 ≤ lead then
    let fraction := String.ofList (ds.toList.drop 1)
    let e := toString lead.natAbs
    String.ofList (ds.toList.take 1) ++ (if fraction = "" then "" else "." ++ fraction) ++ "e" ++
      (if lead < 0 then "-" else "+") ++ (if e.length < 2 then "0" ++ e else e)
  else if lead < 0 then "0." ++ zeros (lead.natAbs - 1) ++ ds
  else if 0 ≤ exponent then ds ++ zeros exponent.toNat ++ ".0"
  else
    let n := lead.toNat + 1
    String.ofList (ds.toList.take n) ++ "." ++ String.ofList (ds.toList.drop n)

/-- Drops zeros at the end of digits. -/
def trimZeros (digits : Nat) (exponent : Int) : Nat → Nat × Int
  | 0 => (digits, exponent)
  | fuel + 1 =>
    if digits ≠ 0 && digits % 10 = 0 then trimZeros (digits / 10) (exponent + 1) fuel
    else (digits, exponent)

/-- The text of a number. -/
def text : FloatValue → String
  | finite n s p =>
    let body :=
      if s = 0 then "0.0"
      else
        let (d, e) := shortest s p
        let (d, e) := trimZeros d e 20
        layOut d e
    (if n then "-" else "") ++ body
  | infinite n => if n then "-inf" else "inf"
  | nan => "nan"

end FloatValue

end SecretScan.Yaml

import SecretScan.Yaml.Error

/-!
# Dates and times

A day of the calendar, and a moment with an optional offset from the common time.
A text has the form of a date when it has a year, a month and a day; the form of a
moment also needs an hour, a minute and a second. Whether there is such a day is a
question for later.
-/

namespace SecretScan.Yaml

/-- The parts of a written time, as numbers. -/
structure WrittenTime where
  year : Nat
  month : Nat
  day : Nat
  /-- Hour, minute, second, and millionths of a second. -/
  clock : Option (Nat × Nat × Nat × Nat)
  /-- Seconds between this clock and the common one. -/
  offset : Option Int
  /-- Whether month and day have two digits each. -/
  twoDigits : Bool
deriving DecidableEq, Repr

namespace WrittenTime

/-- The number that digits stand for. -/
def number (digits : List Char) : Nat :=
  Text.ofDigits 10 (digits.map fun c => c.toNat - '0'.toNat)

/-- Between `least` and `most` digits, as many as there are. -/
def digits? (least most : Nat) (s : List Char) : Option (List Char × List Char) :=
  let taken := (s.take most).takeWhile Char.isDigit
  if taken.length < least then none else some (taken, s.drop taken.length)

/-- A given character. -/
def char? (c : Char) : List Char → Option (List Char)
  | d :: rest => if d = c then some rest else none
  | [] => none

/-- A blank or a tab. -/
def isSpace (c : Char) : Bool := c == ' ' || c == '\t'

/-- Millionths of a second from the digits after the point. -/
def millionths (digits : List Char) : Nat :=
  let taken := digits.take 6
  number taken * Nat.pow 10 (6 - taken.length)

/-- The offset at the end of a moment, if there is one. -/
def offset? (s : List Char) : Option (Option Int) :=
  match s with
  | [] => some none
  | _ =>
    match s.dropWhile isSpace with
    | ['Z'] => some (some 0)
    | sign :: rest =>
      if sign == '-' || sign == '+' then do
        let (hours, rest) ← digits? 1 2 rest
        let minutes ←
          match rest with
          | [] => some []
          | ':' :: rest => do
            let (minutes, rest) ← digits? 2 2 rest
            if rest.isEmpty then some minutes else none
          | _ => none
        let seconds : Int := (number hours * 60 + number minutes) * 60
        some (some (if sign == '-' then -seconds else seconds))
      else none
    | [] => none

/-- The clock and the offset of a moment. -/
def clock? (s : List Char) : Option ((Nat × Nat × Nat × Nat) × Option Int) := do
  let s ←
    match s with
    | 'T' :: rest | 't' :: rest => some rest
    | c :: rest => if isSpace c then some (rest.dropWhile isSpace) else none
    | [] => none
  let (hour, s) ← digits? 1 2 s
  let s ← char? ':' s
  let (minute, s) ← digits? 2 2 s
  let s ← char? ':' s
  let (second, s) ← digits? 2 2 s
  let (fraction, s) :=
    match s with
    | '.' :: rest => (rest.takeWhile Char.isDigit, rest.dropWhile Char.isDigit)
    | _ => ([], s)
  let offset ← offset? s
  some ((number hour, number minute, number second, millionths fraction), offset)

/-- The parts of a text that has the form of a date or a moment. -/
def ofText? (s : List Char) : Option WrittenTime := do
  let (year, s) ← digits? 4 4 s
  let s ← char? '-' s
  let (month, s) ← digits? 1 2 s
  let s ← char? '-' s
  let (day, s) ← digits? 1 2 s
  let twoDigits := month.length == 2 && day.length == 2
  if s.isEmpty then some ⟨number year, number month, number day, none, none, twoDigits⟩
  else
    let (clock, offset) ← clock? s
    some ⟨number year, number month, number day, some clock, offset, twoDigits⟩

/-- Whether a text is taken for a time without being told: a date needs two digits
for month and day, a moment does not. -/
def isEvident (s : List Char) : Bool :=
  match ofText? s with
  | some t => t.clock.isSome || t.twoDigits
  | none => false

end WrittenTime

/-- A day of the calendar. -/
structure Day where
  year : Nat
  month : Nat
  day : Nat
deriving DecidableEq, Repr

namespace Day

/-- Whether a year has a leap day. -/
def isLeap (year : Nat) : Bool :=
  year % 4 == 0 && (year % 100 != 0 || year % 400 == 0)

/-- The number of days of a month. -/
def daysIn (year month : Nat) : Nat :=
  match month with
  | 2 => if isLeap year then 29 else 28
  | 4 | 6 | 9 | 11 => 30
  | _ => 31

/-- The day with these numbers, if the calendar has one. -/
def make (year month day : Nat) : Except ValueFault Day :=
  if year = 0 then .error (.yearOutOfRange year)
  else if month = 0 || 12 < month then .error .monthOutOfRange
  else if day = 0 || daysIn year month < day then .error .dayOutOfRange
  else .ok ⟨year, month, day⟩

end Day

/-- A moment: a day, a clock, and an offset if one was given. -/
structure Moment where
  day : Day
  hour : Nat
  minute : Nat
  second : Nat
  micro : Nat
  offset : Option Int
deriving DecidableEq, Repr

namespace Moment

/-- A number with at least `width` digits. -/
def padded (width n : Nat) : String :=
  let s := toString n
  String.ofList (List.replicate (width - s.length) '0') ++ s

/-- The text of a span of time: whole days, which may be negative, and the seconds
that are left. -/
def spanText (seconds : Int) : String :=
  let days := Int.fdiv seconds 86400
  let rest := Int.fmod seconds 86400
  let parts :=
    (if days = 0 then [] else ["days=" ++ toString days]) ++
      (if rest = 0 then [] else ["seconds=" ++ toString rest])
  match parts with
  | [] => "datetime.timedelta(0)"
  | [p] => "datetime.timedelta(" ++ p ++ ")"
  | p :: q :: _ => "datetime.timedelta(" ++ p ++ ", " ++ q ++ ")"

/-- The moment with these parts. The offset is looked at first. -/
def make (t : WrittenTime) (clock : Nat × Nat × Nat × Nat) : Except ValueFault Moment := do
  let (hour, minute, second, micro) := clock
  match t.offset with
  | some o => if 86400 ≤ o.natAbs then throw (.offsetTooLarge (spanText o))
  | none => pure ()
  let day ← Day.make t.year t.month t.day
  if 23 < hour then throw .hourOutOfRange
  if 59 < minute then throw .minuteOutOfRange
  if 59 < second then throw .secondOutOfRange
  return ⟨day, hour, minute, second, micro, t.offset⟩

end Moment

namespace Day

/-- A day as people write it. -/
def text (d : Day) : String :=
  Moment.padded 4 d.year ++ "-" ++ Moment.padded 2 d.month ++ "-" ++ Moment.padded 2 d.day

/-- A day as it is shown inside a collection. -/
def shown (d : Day) : String :=
  "datetime.date(" ++ toString d.year ++ ", " ++ toString d.month ++ ", " ++ toString d.day ++ ")"

end Day

namespace Moment

/-- An offset in hours and minutes. -/
def offsetText (seconds : Int) : String :=
  let minutes := seconds.natAbs / 60
  (if seconds < 0 then "-" else "+") ++ padded 2 (minutes / 60) ++ ":" ++ padded 2 (minutes % 60)

/-- A moment as people write it. -/
def text (m : Moment) : String :=
  m.day.text ++ " " ++ padded 2 m.hour ++ ":" ++ padded 2 m.minute ++ ":" ++ padded 2 m.second ++
    (if m.micro = 0 then "" else "." ++ padded 6 m.micro) ++
    match m.offset with
    | some o => offsetText o
    | none => ""

/-- A moment as it is shown inside a collection: seconds and millionths are left out
when they are zero. -/
def shown (m : Moment) : String :=
  let numbers := [m.day.year, m.day.month, m.day.day, m.hour, m.minute] ++
    (if m.micro ≠ 0 then [m.second, m.micro] else if m.second ≠ 0 then [m.second] else [])
  let zone :=
    match m.offset with
    | none => ""
    | some 0 => ", tzinfo=datetime.timezone.utc"
    | some o => ", tzinfo=datetime.timezone(" ++ spanText o ++ ")"
  "datetime.datetime(" ++ String.intercalate ", " (numbers.map toString) ++ zone ++ ")"

end Moment

end SecretScan.Yaml

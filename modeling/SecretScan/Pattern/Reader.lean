import SecretScan.Pattern.Item

/-!
# Reading pieces

The reader sees one piece ahead. A backslash at the very end is noticed as soon
as it is the piece ahead, before anything else is said about the pieces in front
of it.
-/

namespace SecretScan

/-- The state of reading. -/
structure PatternReader where
  pieces : List Piece
  /-- The number of groups begun so far. -/
  groupCount : Nat := 0
  /-- The widths of the groups that are finished. -/
  finished : List (Nat × PatternWidth) := []
  names : List (String × Nat) := []
  /-- Inside a look-behind, the number of the first group that belongs to it. -/
  lookBehindFrom : Option Nat := none
  /-- Groups that a condition asks about by number. -/
  asked : List Nat := []
  sawAscii : Bool := false
  sawUnicode : Bool := false
  template : Bool := false
deriving Repr

/-- Reading with a state, which may be refused. -/
abbrev ReadPattern := StateT PatternReader (Except PatternRefusal)

namespace ReadPattern

/-- Refuses for a fault of form. -/
def fail {α : Type} (e : PatternError) : ReadPattern α :=
  throw (.malformed e)

/-- The piece ahead. -/
def peek : ReadPattern (Option Piece) := do
  return (← get).pieces.head?

/-- Whether the piece ahead is the given character. -/
def sees (c : Char) : ReadPattern Bool := do
  return (← peek) == some (.char c)

/-- Makes the pieces the ones to be read next. -/
def goTo (pieces : List Piece) : ReadPattern Unit := do
  if pieces.head? == some .dangling then fail .danglingEscape
  modify ({ · with pieces })

/-- Takes the piece ahead. -/
def take : ReadPattern (Option Piece) := do
  let pieces := (← get).pieces
  goTo (pieces.drop 1)
  return pieces.head?

/-- Takes the piece ahead if it is the given character. -/
def accept (c : Char) : ReadPattern Bool := do
  if ← sees c then
    discard take
    return true
  return false

/-- Takes up to `n` pieces that are characters of a class. -/
def takeWhile (p : Char → Bool) : Nat → ReadPattern (List Char)
  | 0 => return []
  | n + 1 => do
    match ← peek with
    | some (.char c) =>
      if p c then
        discard take
        return c :: (← takeWhile p n)
      else return []
    | _ => return []

/-- Takes pieces up to a closing character, which is taken too. -/
def takeUntil (closer : Char) (what : String) (sofar : List Char) : Nat → ReadPattern String
  | 0 => fail (.missingName what)
  | fuel + 1 => do
    match ← take with
    | none => if sofar.isEmpty then fail (.missingName what) else fail (.unterminatedName closer)
    | some piece =>
      if piece == .char closer then
        if sofar.isEmpty then fail (.missingName what) else return String.ofList sofar
      else takeUntil closer what (sofar ++ piece.text) fuel

/-- Takes a name that ends with a closing character. -/
def takeName (closer : Char) (what : String) : ReadPattern String := do
  takeUntil closer what [] ((← get).pieces.length + 1)

/-- Insists that a text can name a group. -/
def checkName (name : String) : ReadPattern Unit := do
  unless Text.isName name.toList do fail (.badGroupName name)

/-- A decimal number that may be as long as a numeral may be. -/
def decimal (digits : List Char) : ReadPattern Nat := do
  if Text.decimalLimit < digits.length then throw (.numberTooLong digits.length)
  return Text.ofDigits 10 (digits.map fun c => c.toNat - '0'.toNat)

/-- Insists that a group may be referred to here: from inside a look-behind only
groups that were finished before it. -/
def checkLookBehind (index : Nat) : ReadPattern Unit := do
  let s ← get
  match s.lookBehindFrom with
  | none => return
  | some first =>
    if (s.finished.lookup index).isNone then fail .openGroup
    if first ≤ index then fail .groupInSameLookBehind

end ReadPattern

end SecretScan

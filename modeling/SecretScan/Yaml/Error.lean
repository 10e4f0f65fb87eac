import SecretScan.Text.Integer
import SecretScan.Text.Quoted
import SecretScan.Text.Search
import SecretScan.Yaml.Position

/-!
# What can be wrong with a document

A document can fail as a document, in one of five ways that have names. What is said
then shows the places that it is about. Or a single value in it can have a tag that
promises more than its text holds; such a fault has a wording without places.
-/

namespace SecretScan.Yaml

/-- The ways in which a document fails as a document. -/
inductive Fault where
  /-- A character that may not be in a document. -/
  | reader
  /-- A text that is no token. -/
  | scanner
  /-- Tokens in an order that has no meaning. -/
  | parser
  /-- An alias without an anchor, an anchor given twice, or a second document. -/
  | composer
  /-- A node that its tag does not fit. -/
  | constructor
deriving DecidableEq, Repr

/-- The name of a fault. -/
def Fault.name : Fault → String
  | reader => "ReaderError"
  | scanner => "ScannerError"
  | parser => "ParserError"
  | composer => "ComposerError"
  | constructor => "ConstructorError"

/-- What is said about a document that fails as a document. -/
structure Complaint where
  fault : Fault
  /-- What was going on, and where it began. -/
  context : Option (String × Option Mark) := none
  problem : String
  /-- Where the problem was noticed. -/
  mark : Option Mark := none
deriving DecidableEq, Repr

namespace Complaint

/-- Whether two places are the same for a reader. -/
def samePlace (a b : Mark) : Bool := a.line == b.line && a.column == b.column

/-- The lines about the context; its place is left out if it is that of the problem. -/
def contextLines (source : List Char) (c : Complaint) : List String :=
  match c.context with
  | none => []
  | some (activity, none) => [activity]
  | some (activity, some start) =>
    if c.mark.any (samePlace start) then [activity] else [activity, start.describe source]

/-- The wording of a complaint about a source. -/
def message (source : List Char) (c : Complaint) : String :=
  Text.join "\n" (c.contextLines source ++ [c.problem] ++
    (c.mark.map fun m => m.describe source).toList)

/-- How a character is named. -/
def named (c : Char) : String := Text.quoted (String.ofList [c])

/-- What is said when something else stands where something was expected. -/
def expected (what : String) (c : Char) : String :=
  "expected " ++ what ++ ", but found " ++ named c

end Complaint

/-- A value whose text is not what its tag promises. -/
inductive ValueFault where
  | notAnInteger (base : Nat) (text : String)
  | integerTooLong (digits : Nat)
  | notAFloat (text : String)
  | yearOutOfRange (year : Nat)
  | monthOutOfRange
  | dayOutOfRange
  | hourOutOfRange
  | minuteOutOfRange
  | secondOutOfRange
  | offsetTooLarge (offset : String)
  | notACharacter
deriving DecidableEq, Repr

/-- How much of a text is shown that is no integer. -/
def shownOfInteger : Nat := 200

/-- The wording of a fault in a value. -/
def ValueFault.message : ValueFault → String
  | notAnInteger base text =>
    "invalid literal for int() with base " ++ toString base ++ ": " ++
      String.ofList ((Text.quoted text).toList.take shownOfInteger)
  | integerTooLong digits => Text.tooLongMessage digits
  | notAFloat text => "could not convert string to float: " ++ Text.quoted text
  | yearOutOfRange year => "year " ++ toString year ++ " is out of range"
  | monthOutOfRange => "month must be in 1..12"
  | dayOutOfRange => "day is out of range for month"
  | hourOutOfRange => "hour must be in 0..23"
  | minuteOutOfRange => "minute must be in 0..59"
  | secondOutOfRange => "second must be in 0..59"
  | offsetTooLarge offset =>
    "offset must be a timedelta strictly between -timedelta(hours=24) and " ++
      "timedelta(hours=24), not " ++ offset ++ "."
  | notACharacter => "chr() arg not in range(0x110000)"

/-- A fault that has a name but no wording. -/
inductive BareFault where
  /-- A truth value that is none of the known words. -/
  | unknownWord
  /-- A number without a single character. -/
  | emptyNumber
  /-- A time that does not have the form of one. -/
  | noTime
  /-- A time where a collection stands. -/
  | timeOfCollection
  /-- A number beyond what a character code can be. -/
  | codeTooLarge
  /-- A whole number beyond what a number with a fraction can be. -/
  | factorTooLarge
  /-- A node that contains itself where only a text may stand. -/
  | endless
deriving DecidableEq, Repr

/-- The name of a fault without wording. -/
def BareFault.name : BareFault → String
  | unknownWord => "KeyError"
  | emptyNumber => "IndexError"
  | noTime => "AttributeError"
  | timeOfCollection => "TypeError"
  | codeTooLarge | factorTooLarge => "OverflowError"
  | endless => "RecursionError"

/-- Why a text could not be read as a document. -/
inductive ReadError where
  | document (c : Complaint)
  | value (f : ValueFault)
  | bare (f : BareFault)
  /-- An escape asks for one half of a character. Texts consist of whole characters here, so what
  becomes of such a document is left open. -/
  | halfCharacter
deriving DecidableEq, Repr

/-- The failure at a place, unless it has a place already. -/
def ReadError.at (m : Mark) : ReadError → ReadError
  | document c => document { c with mark := c.mark.or (some m) }
  | e => e

end SecretScan.Yaml

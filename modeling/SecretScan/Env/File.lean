import SecretScan.Env.Mapping
import SecretScan.Env.Value
import SecretScan.Text.LetterCase

/-!
# Environment files

Variables stand on lines of their own, each with its value behind an equals sign. New
variables are added at the end of a file, whatever is in it. An example file names the
same variables with placeholders for their values.
-/

namespace SecretScan.Env

/-- The name of the file that holds the variables. -/
def fileName : String := ".env"

/-- The name of the file that shows which variables there are. -/
def exampleName : String := ".env.example"

/-- A text whose last line is ended. -/
def ended (s : List Char) : List Char :=
  match s.getLast? with
  | none => s
  | some c => if c = '\n' then s else s ++ ['\n']

/-- The line of a variable. -/
def line (name value : String) : List Char :=
  name.toList ++ '=' :: Value.encode value.toList ++ ['\n']

/-- The lines of variables. -/
def lines (assignments : List (String × String)) : List Char :=
  assignments.flatMap fun (name, value) => line name value

/-- A file after variables were added to it; there may have been none. -/
def append (existing : Option (List Char)) (assignments : List (String × String)) : List Char :=
  ended (existing.getD []) ++ lines assignments

/-- The line of a variable in an example file. -/
def exampleLine (name : String) : List Char :=
  name.toList ++ "=your_".toList ++ (Text.lowerText name).toList ++ "_here\n".toList

/-- An example file. -/
def exampleFile (names : List String) : List Char :=
  names.flatMap exampleLine

end SecretScan.Env

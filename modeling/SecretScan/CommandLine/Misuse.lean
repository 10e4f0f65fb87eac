import SecretScan.Text.Quoted
import SecretScan.Text.Search

/-!
# Misuse of the command line

What can be wrong with the words of a command, and how it is said. Most complaints come
with the usage of the command that was addressed.
-/

namespace SecretScan.CommandLine

/-- A command that can be addressed. -/
inductive Command where
  /-- The program itself, which expects the name of a command. -/
  | program
  | scan
  | network
deriving DecidableEq, Repr

namespace Command

/-- The name of the program. -/
def programName : String := "vibecurb"

/-- The words that address a command. -/
def path : Command → String
  | program => programName
  | scan => programName ++ " scan"
  | network => programName ++ " scan-network"

/-- The command with a name. -/
def ofName? (name : String) : Option Command :=
  if name = "scan" then some scan else if name = "scan-network" then some network else none

/-- What a command expects. -/
def usage (c : Command) : String :=
  "Usage: " ++ c.path ++
    match c with
    | program => " [OPTIONS] COMMAND [ARGS]..."
    | _ => " [OPTIONS] [PATH]"

/-- The usage of a command, and where to learn more. -/
def usageLines (c : Command) : String :=
  c.usage ++ "\nTry '" ++ c.path ++ " --help' for help.\n\n"

end Command

/-- What is wrong with the words of a command. -/
inductive Misuse where
  | unknownOption (name : String)
  | unknownCommand (name : String)
  | missingCommand
  | missingValue (option : String)
  | unwantedValue (option : String)
  /-- A value that does not suit a parameter, which is given as it is written. -/
  | badValue (parameter problem : String)
  | extraArguments (arguments : List String)
  /-- Words with which the command cannot work. -/
  | refused (problem : String)
deriving DecidableEq, Repr

namespace Misuse

/-- The wording of a complaint. -/
def message : Misuse → String
  | unknownOption name => "No such option " ++ Text.quoted name ++ "."
  | unknownCommand name => "No such command " ++ Text.quoted name ++ "."
  | missingCommand => "Missing command."
  | missingValue option => "Option " ++ Text.quoted option ++ " requires an argument."
  | unwantedValue option => "Option " ++ Text.quoted option ++ " does not take a value."
  | badValue parameter problem => "Invalid value for " ++ parameter ++ ": " ++ problem
  | extraArguments [argument] => "Got unexpected extra argument (" ++ argument ++ ")"
  | extraArguments arguments =>
    "Got unexpected extra arguments (" ++ Text.join " " arguments ++ ")"
  | refused problem => problem

/-- Whether a complaint comes with the usage of the command. -/
def showsUsage : Misuse → Bool
  | missingValue _ => false
  | unwantedValue _ => false
  | _ => true

/-- The complaint about a command. -/
def complaint (c : Command) (m : Misuse) : String :=
  (if m.showsUsage then c.usageLines else "") ++ "Error: " ++ m.message ++ "\n"

end Misuse

end SecretScan.CommandLine

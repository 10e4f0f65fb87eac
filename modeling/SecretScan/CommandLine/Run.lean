import SecretScan.CommandLine.ScanCommand
import SecretScan.Console.Tags

/-!
# Running the program

The first words may be options of the program; then comes the name of a command, and
what is behind it belongs to the command.
-/

namespace SecretScan.CommandLine

open Console (Entry)
open Files (Disk)

variable [Yaml.SetOrder] [Console.Markup]

/-- The version of the program. -/
def version : String := "0.1.0"

/-- What a run of the program did. -/
structure Outcome where
  exitCode : Nat
  session : Session
  /-- What is said about misuse. -/
  complaint : String := ""
  /-- The name of a failure that the program did not expect. -/
  fault : Option String := none

/-- The name of a text for the console whose tags cannot be followed. -/
def badMarkupName : String := "MarkupError"

/-- What a run did when its command stopped. -/
def Outcome.ofStop (c : Command) (session : Session) : Stop → Outcome
  | .finished exitCode => { exitCode, session }
  | .misuse m => { exitCode := 2, session, complaint := m.complaint c }
  | .failure f => { exitCode := 1, session, fault := some f.name }
  | .badMarkup => { exitCode := 1, session, fault := some badMarkupName }

/-- Carries out a command. -/
def carryOut (v : ConfigVariables) (s : Settings) : Command → Step Nat
  | .scan => scan v s
  | .network => scanNetwork v s
  | .program => Step.finish 0

/-- What a command does with its words. -/
def command (v : ConfigVariables) (c : Command) (words : List String) : Step Nat := do
  match Words.read c.forms true words with
  | .error m => throw (.misuse m)
  | .ok w =>
    if w.has "--help" then
      Step.write c.usage
      return 0
    match Settings.ofWords (← get).disk w with
    | .error m => throw (.misuse m)
    | .ok s => carryOut v s c

/-- A run of a command on a disk. -/
def runCommand (d : Disk) (v : ConfigVariables) (c : Command) (words : List String) : Outcome :=
  match (command v c words).run.run { disk := d } with
  | (.ok exitCode, session) => { exitCode, session }
  | (.error stop, session) => Outcome.ofStop c session stop

/-- A run of the program that writes a line and does nothing else. -/
def lineOnly (d : Disk) (line : String) : Outcome :=
  { exitCode := 0, session := { disk := d, output := line ++ "\n" } }

/-- A run of the program that was not understood. -/
def refuse (d : Disk) (m : Misuse) : Outcome :=
  Outcome.ofStop .program { disk := d } (.misuse m)

/-- What the options of the program by themselves make it do; the first one counts. -/
def answerOptions? (d : Disk) (w : Words) : Option Outcome :=
  match w.names.find? fun n => n = "--version" || n = "--help" with
  | some "--version" => some (lineOnly d (Command.programName ++ ", version " ++ version))
  | some _ => some (lineOnly d Command.program.usage)
  | none => none

/-- What is said about a name that no command has. If it is spelled like an option, it is
taken for one. -/
def refuseName (d : Disk) (words : List String) (name : String) : Outcome :=
  match Words.read Command.program.forms false words with
  | .error m => refuse d m
  | .ok w => (answerOptions? d w).getD (refuse d (.unknownCommand name))

/-- The run of the program with some words on a disk. -/
def run (d : Disk) (v : ConfigVariables) (words : List String) : Outcome :=
  match Words.read Command.program.forms false words with
  | .error m => refuse d m
  | .ok w =>
    match answerOptions? d w with
    | some outcome => outcome
    | none =>
      match w.arguments with
      | [] => refuse d .missingCommand
      | name :: rest =>
        match Command.ofName? name with
        | some c => runCommand d v c rest
        | none => refuseName d (name :: rest) name

end SecretScan.CommandLine

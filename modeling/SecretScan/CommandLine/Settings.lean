import SecretScan.CommandLine.Words
import SecretScan.Config
import SecretScan.Files.Disk

/-!
# Settings of the commands

What the words of a command ask for. Values are checked in the order in which their
options were given, the argument after them, and the first bad one is reported. Of an
option that was given more than once the last value counts.
-/

namespace SecretScan.CommandLine

open Files (Disk)

/-- What a command is asked for. -/
structure Settings where
  path : String
  overrides : ConfigOverrides := {}
  fix : Bool := false
  dryRun : Bool := false
  json : Bool := false
  unredacted : Bool := false
  markdown : String := ""

/-- The options of the program. -/
def programForms : List OptionForm :=
  [⟨"--version", none, false⟩, ⟨"--verbose", some 'v', false⟩, ⟨"--help", none, false⟩]

/-- The options of both commands. -/
def commonForms : List OptionForm :=
  [⟨"--severity", some 's', true⟩, ⟨"--json", none, false⟩, ⟨"--unredacted", none, false⟩,
   ⟨"--help", none, false⟩]

/-- The options of a command. -/
def Command.forms : Command → List OptionForm
  | .program => programForms
  | .network => commonForms
  | .scan => commonForms ++
    [⟨"--extensions", some 'e', true⟩, ⟨"--exclude", none, true⟩, ⟨"--rules", none, true⟩,
     ⟨"--fix", none, false⟩, ⟨"--dry-run", none, false⟩, ⟨"--markdown", none, true⟩]

/-- The severities that may be asked for. -/
def severityChoices : List String := ["error", "warning", "all"]

/-- Complains about a path where nothing is. -/
def checkThere (d : Disk) (parameter kind path : String) : Except Misuse Unit :=
  match d.node path with
  | .ok _ => .ok ()
  | .error _ => .error (.badValue parameter (kind ++ " " ++ Text.quoted path ++ " does not exist."))

/-- Complains about the path of a directory. -/
def checkNoDirectory (d : Disk) (parameter path : String) : Except Misuse Unit :=
  match d.node path with
  | .ok (.directory _) =>
    .error (.badValue parameter ("File " ++ Text.quoted path ++ " is a directory."))
  | _ => .ok ()

/-- Checks the value of an option. -/
def checkOption (d : Disk) (w : Words) (name : String) : Except Misuse Unit :=
  let value := (w.value? name).getD ""
  match name with
  | "--severity" =>
    if severityChoices.contains value then .ok ()
    else .error (.badValue "'--severity' / '-s'" (Text.quoted value ++ " is not one of " ++
      Text.join ", " (severityChoices.map Text.quoted) ++ "."))
  | "--rules" => do
    checkThere d "'--rules'" "File" value
    checkNoDirectory d "'--rules'" value
  | "--markdown" => checkNoDirectory d "'--markdown'" value
  | _ => .ok ()

/-- Checks the values of options one after another. -/
def checkOptions (d : Disk) (w : Words) : List String → Except Misuse Unit
  | [] => .ok ()
  | name :: rest => do
    checkOption d w name
    checkOptions d w rest

/-- The parts of a value between commas, if there is one. -/
def listValue (w : Words) (name : String) : List String :=
  Config.splitList ((w.value? name).getD "")

/-- What the words of a command ask for. -/
def Settings.ofWords (d : Disk) (w : Words) : Except Misuse Settings := do
  checkOptions d w w.names
  let path := w.arguments.headD "."
  checkThere d "'[PATH]'" "Path" path
  if !w.arguments.tail.isEmpty then throw (.extraArguments w.arguments.tail)
  return {
    path
    overrides :=
      { extensions := listValue w "--extensions", exclude := listValue w "--exclude"
        severity := (w.value? "--severity").getD "", rulesFile := (w.value? "--rules").getD "" }
    fix := w.has "--fix", dryRun := w.has "--dry-run", json := w.has "--json"
    unredacted := w.has "--unredacted", markdown := (w.value? "--markdown").getD "" }

end SecretScan.CommandLine

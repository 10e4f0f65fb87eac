import SecretScan.CommandLine.Session
import SecretScan.CommandLine.Settings
import SecretScan.Config.Load
import SecretScan.Console.Results
import SecretScan.Remediation.Run
import SecretScan.Scan.Project

/-!
# Commands

Both commands scan a path and say what they found. The one for secrets can also write a
report, show what a remediation would do, and carry it out. Errors among the findings
make an exit code of one, unless a remediation resolved all of them.
-/

namespace SecretScan.CommandLine

open Console (Entry styled)

variable [Yaml.SetOrder] [Console.Markup]

/-- The failures of reading settings that count as misuse. -/
def asMisuse (f : Failure) : Stop :=
  match f with
  | .bare _ | .halfCharacter => .failure f
  | _ => .misuse (.refused f.wording)

/-- Goes on with settings, or complains about them. -/
def orComplain : Except Failure α → Step α
  | .ok a => pure a
  | .error f => throw (asMisuse f)

/-- The full path of what is to be scanned. -/
def fullPath (d : Files.Disk) (path : String) : String :=
  (FilePath.join ⟨"/", d.here⟩ (FilePath.ofString path)).direct.toString

/-- The settings of a project with what is asked for. -/
def configOf (d : Files.Disk) (v : ConfigVariables) (path : String) (o : ConfigOverrides) :
    Except Failure Config := do
  (← Config.load d v path).withOverrides o

/-- The exit code for the results of a scan. -/
def exitCode (results : List FileResult) : Nat :=
  if FileResult.hasErrors results then 1 else 0

/-- Scans, and puts the notices down. -/
def scanWith (catalog : Catalog) (c : Config) (path : String) : Step (List FileResult) := do
  let request ← Step.orFail (c.request path)
  let outcome ← Step.orFail (Scan.project (← get).disk catalog request)
  Step.note outcome.notices
  return outcome.results

/-- A line about a file. -/
def fileLine (base file : String) : Entry :=
  .text ("  " ++ styled "cyan" (Report.shortPath file base))

/-- What is said when there is nothing to fix. -/
def nothingToFix : Entry := .text (styled "green" "No secrets found to fix")

/-- Shows what a remediation would do. -/
def showPreview (findings : List Finding) (base : String) : Step Unit := do
  if findings.isEmpty then Step.display nothingToFix
  else
    let preview := Remediation.preview findings
    Step.print ("\n" ++ styled "blue" "Fix preview" ++ "\n")
    Step.print "Environment variables that would be created:"
    preview.assignments.forM fun entry => Step.printPlain ("  " ++ entry)
    Step.print ("\nFiles that would be modified: " ++ toString preview.files.length)
    Step.showAll (preview.files.map (fileLine base))

/-- What is shown of a remediation that failed. -/
def failureEntries (o : Remediation.Outcome) (base : String) : List Entry :=
  .text (styled "red" o.message) ::
    if o.modified.isEmpty then []
    else .text (styled "yellow" "Already modified (restore from .backup files):") ::
      o.modified.map (fileLine base)

/-- What is shown of a remediation that went well. -/
def successEntries (o : Remediation.Outcome) (base : String) : List Entry :=
  [Entry.text (styled "green" o.message),
   Entry.text (styled "green" ("Wrote .env with " ++ toString o.names.length ++ " variable(s)")),
   Entry.text (styled "green" "Updated .env.example and .gitignore")] ++
  (if o.modified.isEmpty then []
    else [Entry.text ("\n" ++ styled "dim" "Modified files:")] ++ o.modified.map (fileLine base) ++
      [Entry.text ("\n" ++ styled "yellow" "Backups created: *.backup files")]) ++
  (if o.unresolved.isEmpty then []
    else [Entry.text ("\n" ++ styled "red" (toString o.unresolved.length ++
      " error finding(s) still in source (detect-only rules); values were copied to .env"))]) ++
  [Entry.text ("\n" ++ styled "bold" "Next steps:"), Entry.text "  1. Review the changes",
   Entry.text "  2. Check the values in the .env file",
   Entry.text "  3. Delete .backup files when satisfied"]

/-- Carries a remediation out, and gives its exit code. -/
def fix (findings : List Finding) (base : String) : Step Nat := do
  if findings.isEmpty then
    Step.display nothingToFix
    return 0
  Step.print ("\n" ++ styled "blue" "Auto-fixing secrets..." ++ "\n")
  let directory ← Step.orFail (Remediation.projectDirectory (← get).disk base)
  let (disk, notices, result) := Remediation.run (← get).disk directory findings
  modify fun s => { s with disk }
  Step.note notices
  let outcome ← Step.orFail result
  if outcome.success then
    Step.showAll (successEntries outcome base)
    return if outcome.unresolved.isEmpty then 0 else 1
  else
    Step.showAll (failureEntries outcome base)
    return 1

/-- Writes the report for people to a file. -/
def writeMarkdown (file : String) (results : List FileResult) : Step Unit := do
  let path := (FilePath.ofString file).toString
  let disk ← Step.orFail
    (((← get).disk.writeText path (Report.markdown results).toList).mapError .system)
  modify fun s => { s with disk }
  Step.print ("\n" ++ styled "green" ("Markdown report written to " ++ file))

/-- Shows the results of a scan, or writes the report for programs. -/
def report (s : Settings) (results : List FileResult) (base : String) : Step Unit :=
  if s.json then Step.write (Report.json (!s.unredacted) results)
  else Step.showAll (Console.results results base)

/-- Scans for secrets, and does what else is asked for. -/
def scan (v : ConfigVariables) (s : Settings) : Step Nat := do
  let d := (← get).disk
  let base := fullPath d s.path
  let config ← orComplain (configOf d v base s.overrides)
  let catalog ← orComplain (config.catalog d)
  if !s.json then
    Step.print (styled "bold" "Vibecurb" ++ " scanning " ++ styled "cyan" base ++ "\n")
  let results ← scanWith catalog config base
  report s results base
  if s.markdown ≠ "" then writeMarkdown s.markdown results
  if s.dryRun then
    showPreview (FileResult.flatten results) base
    return exitCode results
  else if s.fix then fix (FileResult.flatten results) base
  else return exitCode results

/-- Scans for faults of network code. -/
def scanNetwork (v : ConfigVariables) (s : Settings) : Step Nat := do
  let d := (← get).disk
  let base := fullPath d s.path
  let config ← orComplain (configOf d v base s.overrides)
  if !s.json then
    Step.print (styled "bold" "Vibecurb" ++ " network scan of " ++ styled "cyan" base ++ "\n")
  let results ← scanWith Network.catalog config base
  report s results base
  if !s.json then Step.display (Console.categoryTable (FileResult.flatten results))
  return exitCode results

end SecretScan.CommandLine

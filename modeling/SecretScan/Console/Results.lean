import SecretScan.Catalog.Network
import SecretScan.Console.Entry
import SecretScan.Report.Render

/-!
# Results on a console

The findings of a scan in a table, then the files that could not be read, then how much
was found.
-/

namespace SecretScan.Console

/-- The colour of a severity. -/
def color : Severity → String
  | .error => "red"
  | .warning => "yellow"

/-- How much of a match a table shows. -/
def matchWidth : Nat := 50

/-- The headers of the table of findings. -/
def findingColumns : List String := ["Severity", "File", "Line", "Pattern", "Match", "Fix"]

/-- Where a finding is. -/
def position (f : Finding) : String := toString f.line ++ ":" ++ toString f.column

variable [Markup]

/-- The row of a finding. -/
def findingRow (base : String) (f : Finding) : List String :=
  [styled (color f.severity) f.severity.name, Markup.escape (Report.shortPath f.file base),
   position f, f.rule, Markup.escape (Finding.clip matchWidth f.shown), f.fix]

/-- The table of findings. -/
def findingsTable (base : String) (findings : List Finding) : Entry :=
  .table "Findings" findingColumns (findings.map (findingRow base))

/-- The line about a file that could not be read. -/
def problemLine (base file problem : String) : Entry :=
  .text (styled "yellow" (Markup.escape (Report.shortPath file base) ++ ": " ++ problem))

/-- The lines about the files that could not be read. -/
def problemLines (base : String) (results : List FileResult) : List Entry :=
  results.filterMap fun r => r.problem?.map (problemLine base r.file)

/-- How much was found. -/
def summary (results : List FileResult) : List Entry :=
  let stats := ScanStats.ofResults results
  [Entry.text "\n[bold]Summary[/bold]"] ++
    (if stats.errors = 0 then []
      else [Entry.text (styled "red" (toString stats.errors ++ " error(s) found"))]) ++
    (if stats.warnings = 0 then []
      else [Entry.text (styled "yellow" (toString stats.warnings ++ " warning(s) found"))]) ++
    (if stats.total = 0 then [Entry.text (styled "green" "All clear!")] else [])

/-- Everything that is shown of the results of a scan. -/
def results (all : List FileResult) (base : String) : List Entry :=
  let findings := FileResult.flatten all
  let problems := problemLines base all
  if findings.isEmpty && problems.isEmpty then
    .text (styled "green" "No secrets or sensitive data found!") :: summary all
  else
    (if findings.isEmpty then [] else [findingsTable base findings]) ++ problems ++ summary all

/-- The table of categories. -/
def categoryTable (findings : List Finding) : Entry :=
  .table "By category" ["Category", "Findings"]
    ((Network.summary findings).map fun (c, n) => [c.name, toString n])

end SecretScan.Console

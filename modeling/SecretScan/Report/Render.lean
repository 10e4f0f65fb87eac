import SecretScan.Report.Json
import SecretScan.Scan.Result
import SecretScan.Text.Search

/-!
# Reports

A report for programs and one for people. The one for programs shows the matches
only on demand, the one for people never does.
-/

namespace SecretScan.Report

/-- What stands in the place of a match that is not shown. -/
def redacted : String := "[REDACTED]"

/-- The record of a finding. -/
def findingRecord (redact : Bool) (f : Finding) : Json :=
  .record
    ([("filePath", Json.text f.file), ("lineNumber", Json.number f.line),
      ("column", Json.number f.column), ("match", Json.text (if redact then redacted else f.shown)),
      ("pattern", Json.text f.rule), ("severity", Json.text f.severity.name),
      ("message", Json.text f.message), ("fixSuggestion", Json.text f.fix)] ++
      (f.category.map fun c => ("category", Json.text c.name)).toList)

/-- The record of a file. -/
def resultRecord (redact : Bool) (r : FileResult) : Json :=
  .record
    ([("filePath", Json.text r.file),
      ("findings", Json.list (r.findings.map (findingRecord redact)))] ++
      (r.error.map fun e => ("error", Json.text e)).toList)

/-- The report for programs. -/
def json (redact : Bool) (results : List FileResult) : String :=
  (Json.list (results.map (resultRecord redact))).render 0

/-- The lines about a finding. -/
def findingLines (f : Finding) : List String :=
  ["**" ++ f.severity.title ++ "** - Line " ++ toString f.line ++ ":" ++ toString f.column, "",
   "- **Issue:** " ++ f.message, "- **Pattern:** " ++ f.rule, "- **Fix:** " ++ f.fix, ""]

/-- The lines about a file. -/
def resultLines (r : FileResult) : List String :=
  ["### " ++ r.file, ""] ++
    match r.problem? with
    | some e => ["- **Error:** " ++ e, ""]
    | none => r.findings.flatMap findingLines

/-- The lines about the numbers of a scan. -/
def statsLines (s : ScanStats) : List String :=
  ["# Vibecurb Security Report", "", "## Summary", "",
   "- **Errors:** " ++ toString s.errors, "- **Warnings:** " ++ toString s.warnings,
   "- **Files Scanned:** " ++ toString s.files, ""]

/-- The report for people. -/
def markdown (results : List FileResult) : String :=
  let stats := statsLines (ScanStats.ofResults results)
  if results.isEmpty then
    Text.join "\n" (stats ++ ["No secrets or sensitive data found!"]) ++ "\n"
  else Text.join "\n" (stats ++ ["## Findings", ""] ++ results.flatMap resultLines)

/-- A path as it is shown: without the directory that was scanned, unless nothing
would be left. -/
def shortPath (path base : String) : String :=
  if base.toList.isPrefixOf path.toList then
    match (path.toList.drop base.length).dropWhile (· == '/') with
    | [] => path
    | rest => String.ofList rest
  else path

end SecretScan.Report

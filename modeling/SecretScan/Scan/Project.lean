import SecretScan.Files.Text
import SecretScan.Notice
import SecretScan.Scan.Content
import SecretScan.Scan.Request
import SecretScan.Scan.Result
import SecretScan.Scan.Walk

/-!
# Scanning files

A file is scanned whatever its kind if it is asked for itself; in a directory only files
of the kinds asked for are. A file without findings is passed over in silence, and one
that cannot be read is reported.
-/

namespace SecretScan.Scan

open Files (Disk SystemError)

/-- The results of a scan, and what is to be put down about it. -/
structure Outcome where
  results : List FileResult := []
  notices : List Notice := []
deriving DecidableEq, Repr

/-- What is reported of a directory that may not be looked into. -/
def directoryProblem : String := "Permission denied or directory not accessible"

/-- What is reported of a file that cannot be read. -/
def fileProblem : String := "File not readable"

/-- The outcome of scanning a text. -/
def ofText (catalog : Catalog) (filter : SeverityFilter) (path : FilePath) (s : List Char) :
    Outcome :=
  let file := path.toString
  match content catalog filter file (String.ofList s) with
  | [] => {}
  | findings => { results := [{ file, findings }] }

/-- The outcome of scanning a file that cannot be read. -/
def ofUnreadable (path : FilePath) (f : Failure) : Outcome :=
  { results := [{ file := path.toString, error := some fileProblem }]
    notices := [.unreadableFile path.name f.describe] }

/-- The outcome of scanning something that a walk met. -/
def ofMet (catalog : Catalog) (request : ScanRequest) : Met → Outcome
  | .closedDirectory spelling =>
    { results := [{ file := spelling, error := some directoryProblem }]
      notices := [.unreadableDirectory spelling (SystemError.denied spelling).describe] }
  | .file path bytes =>
    if request.extensions.contains path.kind then
      match Text.decodeUtf8 bytes with
      | some s => ofText catalog request.severity path s
      | none => ofUnreadable path (.undecodable (Text.utf8Fault? bytes))
    else {}

/-- The outcomes one after another. -/
def join (outcomes : List Outcome) : Outcome :=
  ⟨outcomes.flatMap (·.results), outcomes.flatMap (·.notices)⟩

/-- Scans what is asked for: a file, or a directory and what is below it. -/
def project (d : Disk) (catalog : Catalog) (request : ScanRequest) : Except Failure Outcome := do
  let root := FilePath.ofString request.path
  let spelling := root.toString
  if !(← (d.exists? spelling).mapError .system) then throw (.system (.nothingAt spelling))
  match d.node spelling, d.locate spelling with
  | .ok (.directory entries), .ok place =>
    return join ((walk request.exclude d.closed place spelling (.directory entries)).map
      (ofMet catalog request))
  | _, _ =>
    match d.readText spelling with
    | .ok s => return ofText catalog request.severity root s
    | .error f => return ofUnreadable root f

/-- The last name of a path as it is written. -/
def baseName (path : String) : String :=
  String.ofList (((Text.splitAt '/' path.toList).getLast?).getD [])

/-- Scans one file, whose path is kept as it is written. A file that cannot be read has
no findings. -/
def file (d : Disk) (catalog : Catalog) (filter : SeverityFilter) (path : String) :
    List Finding × List Notice :=
  match d.readText path with
  | .ok s => (content catalog filter path (String.ofList s), [])
  | .error f => ([], [.unreadableFile (baseName path) f.describe])

end SecretScan.Scan

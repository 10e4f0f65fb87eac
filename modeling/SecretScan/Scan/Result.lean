import SecretScan.Finding

/-!
# Results of a scan

What a scan has to say about a file: its findings, or why it could not be read.
-/

namespace SecretScan

/-- The findings in a file, or the reason why there are none. -/
structure FileResult where
  file : String
  findings : List Finding := []
  error : Option String := none
deriving DecidableEq, Repr

namespace FileResult

/-- The reason why a file could not be read; an empty reason does not count. -/
def problem? (r : FileResult) : Option String :=
  r.error.filter (· ≠ "")

/-- The findings of all files, in order. -/
def flatten (results : List FileResult) : List Finding :=
  results.flatMap (·.findings)

/-- Whether any finding is an error. -/
def hasErrors (results : List FileResult) : Bool :=
  (flatten results).any (·.severity == .error)

end FileResult

/-- How much a scan found. -/
structure ScanStats where
  errors : Nat
  warnings : Nat
  files : Nat
deriving DecidableEq, Repr

namespace ScanStats

/-- Counts the findings of a scan. -/
def ofResults (results : List FileResult) : ScanStats :=
  let all := FileResult.flatten results
  ⟨all.countP (·.severity == .error), all.countP (·.severity != .error), results.length⟩

/-- The number of findings. -/
def total (s : ScanStats) : Nat := s.errors + s.warnings

end ScanStats

end SecretScan

import SecretScan.Finding
import SecretScan.Text.Blank
import SecretScan.Text.LetterCase
import SecretScan.Text.Quoted
import SecretScan.Text.Search

/-!
# Scan requests

What to scan, which kinds of files to read, which directories to leave out, and
which severities to report.
-/

namespace SecretScan

/-- The kinds of files that are read unless others are asked for. -/
def defaultExtensions : List String :=
  [".js", ".ts", ".jsx", ".tsx", ".mjs", ".cjs", ".py", ".json", ".yaml", ".yml", ".md", ".txt"]

/-- The names of directories that are left out unless others are. -/
def defaultExclude : List String :=
  ["node_modules", "dist", "build", ".git", "coverage", ".env", ".env.local", ".next",
   "__pycache__", ".venv", "venv"]

/-- A request to scan a file or a directory. -/
structure ScanRequest where
  path : String
  extensions : List String
  exclude : List String
  severity : SeverityFilter
  /-- The severity as it was asked for. -/
  severityName : String
deriving DecidableEq, Repr

namespace ScanRequest

/-- An extension in its usual form: without blanks around it, in lower case, and
with a dot in front unless it is empty. -/
def normalExtension (e : String) : String :=
  let e := Text.lowerText (String.ofList (Text.trimBlanks e.toList))
  match e.toList with
  | [] => e
  | '.' :: _ => e
  | _ => "." ++ e

/-- What is said about a severity that is none. -/
def severityMessage (name : String) : String :=
  "Invalid severity filter " ++ Text.quoted name ++ "; expected one of " ++
    Text.join ", " SeverityFilter.names

/-- A request, unless its severity is none; then the name that is none. -/
def make (path : String) (extensions exclude : List String) (severity : String) :
    Except String ScanRequest :=
  if SeverityFilter.names.contains severity then
    .ok ⟨path, extensions.map normalExtension, exclude, SeverityFilter.ofName severity,
      severity⟩
  else .error severity

end ScanRequest

end SecretScan

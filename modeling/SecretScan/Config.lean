import SecretScan.Catalog.Secrets
import SecretScan.Failure
import SecretScan.FilePath
import SecretScan.Scan.Request

/-!
# Configuration

The settings of a scan come from four sources, each of which overrides the ones before:
the defaults, a file in the directory of the project, variables of the environment, and
what is asked for directly. A source that says nothing about a setting leaves it alone.
-/

namespace SecretScan

/-- The settings of a scan. -/
structure Config where
  extensions : List String := defaultExtensions
  exclude : List String := defaultExclude
  /-- The name of the severity filter. -/
  severity : String := "all"
  /-- A file with more rules. -/
  rulesFile : Option FilePath := none
  /-- The file that settings were read from. -/
  source : Option FilePath := none
deriving DecidableEq, Repr

/-- The variables of the environment that hold settings, where they are set. -/
structure ConfigVariables where
  extensions : Option String := none
  exclude : Option String := none
  severity : Option String := none
  rules : Option String := none
deriving DecidableEq, Repr

/-- What is asked for directly. -/
structure ConfigOverrides where
  extensions : List String := []
  exclude : List String := []
  severity : String := ""
  rulesFile : String := ""
deriving DecidableEq, Repr

namespace ConfigVariables

/-- Looks the variables up. -/
def ofLookup (value? : String → Option String) : ConfigVariables :=
  { extensions := value? "VIBECURB_EXTENSIONS", exclude := value? "VIBECURB_EXCLUDE"
    severity := value? "VIBECURB_SEVERITY", rules := value? "VIBECURB_RULES" }

end ConfigVariables

namespace Config

open Yaml (Value)

/-- The names of the file with settings; the first one that is there counts. -/
def fileNames : List String := [".vibecurb.yml", ".vibecurb.yaml"]

/-- The parts between commas, without blanks around them; empty parts do not count. -/
def splitList (s : String) : List String :=
  ((Text.splitAt ',' s.toList).map Text.trimBlanks |>.filter (!·.isEmpty)).map String.ofList

/-- A setting that is a list, or a text of parts between commas. -/
def listSetting (key : String) : Value → Except Failure (List String)
  | .text s => .ok (splitList s)
  | .list items => (items.mapM Value.toText).mapError .value
  | _ => .error (.value ("'" ++ key ++ "' must be a list or comma-separated string"))

/-- The list under a key of a document, or what was set before. -/
def listUnder (document : Value) (key : String) (before : List String) :
    Except Failure (List String) :=
  match document.field? key with
  | some v => listSetting key v
  | none => .ok before

/-- The severity in a document, or what was set before. -/
def severityIn (document : Value) (before : String) : Except Failure String :=
  match document.field? "severity" with
  | some v => (v.toText.mapError .value).map Text.lowerText
  | none => .ok before

/-- The file with rules that a document names, seen from the directory of the document,
or what was set before. -/
def rulesFileIn (document : Value) (directory : FilePath) (before : Option FilePath) :
    Except Failure (Option FilePath) :=
  match document.field? "rules" with
  | some v =>
    if v.isTrue then
      (v.toText.mapError .value).map fun s => some (directory.join (FilePath.ofString s))
    else .ok before
  | none => .ok before

/-- The settings with those of a document, which lies in the given file. A document that
counts as nothing says nothing. -/
def withDocument (c : Config) (file : FilePath) (document : Value) : Except Failure Config := do
  let document := if document.isTrue then document else .map []
  match document with
  | .map _ => pure ()
  | _ => throw (.value (file.name ++ " must be a mapping"))
  return {
    extensions := ← listUnder document "extensions" c.extensions
    exclude := ← listUnder document "exclude" c.exclude
    severity := ← severityIn document c.severity
    rulesFile := ← rulesFileIn document file.parent c.rulesFile
    source := some file }

/-- The keys under which lists are expected. -/
def listKeys : List String := ["extensions", "exclude"]

section Document

variable [Yaml.SetOrder]

/-- What a document says: it is read field by field, and under the keys of lists item by item. -/
def settings (d : Yaml.Document) : Value :=
  match d.fields? d.root with
  | some fields =>
    .map (fields.map fun (key, n) =>
      if listKeys.any fun name => key.sameKey (.text name) then
        (key, ((d.items? d.value n).map Value.list).getD (d.value n))
      else (key, d.value n))
  | none => d.value d.root

/-- What the document in a text says; a text without a document says nothing. -/
def read (s : List Char) : Except Failure Value :=
  ((Yaml.Document.ofText (String.ofList s)).map fun d => (d.map settings).getD .null).mapError
    (Failure.ofReadError s)

end Document

/-- A text that says something. -/
def given (s : Option String) : Option String := s.filter (· ≠ "")

/-- The settings with those of the environment. -/
def withVariables (c : Config) (v : ConfigVariables) : Config :=
  { c with
    extensions := ((given v.extensions).map splitList).getD c.extensions
    exclude := ((given v.exclude).map splitList).getD c.exclude
    severity := ((given v.severity).map fun s =>
      Text.lowerText (String.ofList (Text.trimBlanks s.toList))).getD c.severity
    rulesFile := ((given v.rules).map FilePath.ofString).or c.rulesFile }

/-- What is said about a severity that is none. -/
def severityMessage (severity : String) : String :=
  "Invalid severity " ++ Text.quoted severity ++ "; expected one of " ++
    Text.join ", " SeverityFilter.names

/-- What is said when no files could ever be read. -/
def noExtensionMessage : String := "At least one file extension is required"

/-- Refuses settings with which nothing can be scanned. -/
def checked (c : Config) : Except Failure Config :=
  if !SeverityFilter.names.contains c.severity then .error (.value (severityMessage c.severity))
  else if c.extensions.isEmpty then .error (.value noExtensionMessage)
  else .ok c

/-- The settings with what is asked for directly. -/
def withOverrides (c : Config) (o : ConfigOverrides) : Except Failure Config :=
  checked {
    c with
    extensions := if o.extensions.isEmpty then c.extensions else o.extensions
    exclude := if o.exclude.isEmpty then c.exclude else o.exclude
    severity := if o.severity = "" then c.severity else Text.lowerText o.severity
    rulesFile := if o.rulesFile = "" then c.rulesFile else some (FilePath.ofString o.rulesFile) }

/-- The request to scan a path with these settings. -/
def request (c : Config) (path : String) : Except Failure ScanRequest :=
  (ScanRequest.make path c.extensions c.exclude c.severity).mapError fun name =>
    .value (ScanRequest.severityMessage name)

end Config

end SecretScan

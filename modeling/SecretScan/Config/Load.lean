import SecretScan.Config
import SecretScan.Files.Text

/-!
# Reading settings

The settings of a project are read from its directory, and the rules that they name from
wherever these are.
-/

namespace SecretScan

open Files (Disk)

variable [Yaml.SetOrder]

/-- The rules in a file; what is said about them names the file as it was given. -/
def Rule.loadFile (d : Disk) (path : String) : Except Failure (List Rule) := do
  Rule.loadFrom path (String.ofList (← d.readLines (FilePath.ofString path).toString))

namespace Config

/-- The first of some files that is there. -/
def firstFile (d : Disk) : List FilePath → Except Failure (Option FilePath)
  | [] => .ok none
  | file :: rest => do
    if ← (d.isFile file.toString).mapError .system then return some file else firstFile d rest

/-- The settings with those of a file. -/
def withFile (d : Disk) (c : Config) (file : FilePath) : Except Failure Config := do
  c.withDocument file (← read (← d.readLines file.toString))

/-- The settings of a project, given as its directory or one of its files. -/
def load (d : Disk) (v : ConfigVariables) (project : String) : Except Failure Config := do
  let path := FilePath.ofString project
  let directory := if ← (d.isFile path.toString).mapError .system then path.parent else path
  let c : Config := {}
  let c ←
    match ← firstFile d (fileNames.map fun n => directory.join (FilePath.ofString n)) with
    | some file => c.withFile d file
    | none => pure c
  (c.withVariables v).checked

/-- The catalog of secrets with the rules that the settings name. -/
def catalog (d : Disk) (c : Config) : Except Failure Catalog :=
  match c.rulesFile with
  | none => .ok Secrets.catalog
  | some file => do Secrets.catalog.extended (← Rule.loadFile d file.toString)

end Config

end SecretScan

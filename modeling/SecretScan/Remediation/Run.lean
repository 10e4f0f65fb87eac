import SecretScan.Notice
import SecretScan.Remediation.Artifacts
import SecretScan.Remediation.Preview
import SecretScan.Rewrite.Source

/-!
# Remediation

A run gives every distinct secret a variable, rewrites the files that hold secrets, one
after another, and then writes the files beside them. Right before a file is overwritten
its bytes are copied to a backup. A run is not undone when it fails: what was written up
to then stays, and the backups are the way back.
-/

namespace SecretScan.Remediation

open Files (Disk FileSystem)

section FileSystem

variable {σ : Type} [FileSystem σ]

/-- What is added to the path of a file to make the path of its backup. -/
def backupSuffix : String := ".backup"

/-- How far a run has got. -/
structure Progress (σ : Type) where
  disk : σ
  modified : List String := []
  backups : List String := []
  /-- The numbers of the findings whose literals were replaced. -/
  resolved : List Nat := []

/-- The outcome of a run. -/
structure Outcome where
  success : Bool
  message : String
  names : List String := []
  modified : List String := []
  backups : List String := []
  /-- The errors that are still in the sources. -/
  unresolved : List Finding := []
deriving DecidableEq, Repr

/-- The path of the backup of a file. -/
def backupPath (file : String) : String := file ++ backupSuffix

/-- Copies a file to its backup. -/
def copyToBackup (d : σ) (file : String) : σ × Option Failure :=
  let (d, e) := FileSystem.copy d file (backupPath file)
  (d, e.map .system)

/-- Rewrites a file that holds the given findings. A failure leaves what was done before
it, and what of a copy or a file was written when it came. -/
def fixFile (mapping : Env.Mapping) (p : Progress σ) (file : String)
    (findings : List (Nat × Finding)) : Progress σ × Option Failure :=
  if !hasRewritable findings then (p, none)
  else
    match FileSystem.readText p.disk file with
    | .error f => (p, some f)
    | .ok s =>
      match Rewrite.source mapping (FilePath.ofString file) s findings with
      | .error message => (p, some (.value message))
      | .ok new =>
        if new.text = s then (p, none)
        else
          match copyToBackup p.disk file with
          | (disk, some f) => ({ p with disk }, some f)
          | (disk, none) =>
            let p := { p with disk, backups := p.backups ++ [backupPath file] }
            match FileSystem.writeText p.disk file new.text with
            | (disk, some f) => ({ p with disk }, some f)
            | (disk, none) =>
              ({ p with disk, modified := p.modified ++ [file]
                        resolved := p.resolved ++ new.resolved }, none)

/-- Rewrites files one after another, up to the first failure. -/
def fixFiles (mapping : Env.Mapping) :
    List (String × List (Nat × Finding)) → Progress σ → Progress σ × Option Failure
  | [], p => (p, none)
  | (file, findings) :: rest, p =>
    match fixFile mapping p file findings with
    | (p, some f) => (p, some f)
    | (p, none) => fixFiles mapping rest p

/-- Writes the files beside the sources, up to the first failure. -/
def writeArtifacts (mapping : Env.Mapping) (directory : FilePath) (p : Progress σ) :
    Progress σ × Option Failure :=
  match writeEnv p.disk directory (mapping.entries.map fun e => (e.name, e.value)) with
  | (disk, some f) => ({ p with disk }, some f)
  | (disk, none) =>
    match writeEnvExample disk directory mapping.names with
    | (disk, some f) => ({ p with disk }, some f)
    | (disk, none) =>
      match writeGitignore disk directory with
      | (disk, .error f) => ({ p with disk }, some f)
      | (disk, .ok _) => ({ p with disk }, none)

/-- Whether a failure is reported as the outcome of a run. Others stop it without an
outcome. -/
def isReported : Failure → Bool
  | .system _ => true
  | .undecodable _ => true
  | .unencodable => true
  | _ => false

/-- The errors whose literals were not replaced. -/
def unresolved (resolved : List Nat) (findings : List (Nat × Finding)) : List Finding :=
  (findings.filter fun (i, f) => f.severity == .error && !resolved.contains i).map (·.2)

/-- The outcome of a run that went well. -/
def succeeded (mapping : Env.Mapping) (findings : List (Nat × Finding)) (p : Progress σ) :
    Outcome :=
  { success := true
    message := "Extracted " ++ toString mapping.size ++ " secret(s) from " ++
      toString findings.length ++ " finding(s); rewrote " ++ toString p.modified.length ++
      " file(s)"
    names := mapping.names, modified := p.modified, backups := p.backups
    unresolved := unresolved p.resolved findings }

/-- The outcome of a run that failed. -/
def failed (f : Failure) (p : Progress σ) : Outcome :=
  { success := false, message := "Auto-fix failed: " ++ f.describe
    modified := p.modified, backups := p.backups }

/-- The outcome of a run that had nothing to do. -/
def nothingToDo : Outcome := { success := true, message := "No secrets found to fix" }

/-- How far a run gets, and the failure that stopped it. -/
def ended (mapping : Env.Mapping) (d : σ) (directory : FilePath)
    (findings : List (Nat × Finding)) : Progress σ × Option Failure :=
  match fixFiles mapping (groupByFile findings) { disk := d } with
  | (p, some f) => (p, some f)
  | (p, none) => writeArtifacts mapping directory p

/-- What is said about a run that got so far. -/
def answer (mapping : Env.Mapping) (findings : List (Nat × Finding)) :
    Progress σ × Option Failure → σ × List Notice × Except Failure Outcome
  | (p, none) => (p.disk, [], .ok (succeeded mapping findings p))
  | (p, some f) =>
    if isReported f then (p.disk, [.stopped p.modified.length f.describe], .ok (failed f p))
    else (p.disk, [], .error f)

/-- Moves the secrets of numbered findings into the environment of a project. -/
def runOn (d : σ) (directory : FilePath) (findings : List (Nat × Finding)) :
    σ × List Notice × Except Failure Outcome :=
  if findings.isEmpty then (d, [], .ok nothingToDo)
  else
    let mapping := Env.Mapping.ofFindings (findings.map (·.2))
    answer mapping findings (ended mapping d directory findings)

/-- Moves the secrets of findings into the environment of a project. -/
def run (d : σ) (directory : FilePath) (findings : List Finding) :
    σ × List Notice × Except Failure Outcome :=
  runOn d directory (numbered findings)

end FileSystem

/-- The disk with a file copied to its backup. -/
def backUp (d : Disk) (file : String) : Except Failure Disk :=
  FileSystem.toExcept (copyToBackup d file)

/-- The directory of a project, given as one of its files or as itself. -/
def projectDirectory (d : Disk) (path : String) : Except Failure FilePath := do
  let p := FilePath.ofString path
  if ← (d.isFile p.toString).mapError .system then return p.parent else return p

end SecretScan.Remediation

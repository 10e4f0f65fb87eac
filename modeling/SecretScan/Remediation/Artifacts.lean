import SecretScan.Env.File
import SecretScan.FilePath
import SecretScan.Files.FileSystem
import SecretScan.Gitignore

/-!
# Files beside the sources

A remediation writes three files into the directory of a project: the variables, an
example of them, and the list of what a repository ignores.
-/

namespace SecretScan.Remediation

open Files (Disk FileSystem)

/-- The path of a file in the directory of a project. -/
def artifact (directory : FilePath) (name : String) : String :=
  (directory.join (FilePath.ofString name)).toString

section FileSystem

variable {σ : Type} [FileSystem σ]

/-- The text of a file, if there is one. -/
def existing (d : σ) (path : String) : Except Failure (Option (List Char)) := do
  if ← (FileSystem.exists? d path).mapError .system then
    return some (← FileSystem.readText d path)
  else return none

/-- Adds variables to the environment file. -/
def writeEnv (d : σ) (directory : FilePath) (assignments : List (String × String)) :
    σ × Option Failure :=
  let path := artifact directory Env.fileName
  match existing d path with
  | .error f => (d, some f)
  | .ok old => FileSystem.writeText d path (Env.append old assignments)

/-- Writes the example of the environment file. -/
def writeEnvExample (d : σ) (directory : FilePath) (names : List String) : σ × Option Failure :=
  FileSystem.writeText d (artifact directory Env.exampleName) (Env.exampleFile names)

/-- Completes the list of what a repository ignores, and says whether it had to. -/
def writeGitignore (d : σ) (directory : FilePath) : σ × Except Failure Bool :=
  let path := artifact directory Gitignore.fileName
  match existing d path with
  | .error f => (d, .error f)
  | .ok old =>
    match Gitignore.completed? old with
    | none => (d, .ok false)
    | some s =>
      match FileSystem.writeText d path s with
      | (d, some f) => (d, .error f)
      | (d, none) => (d, .ok true)

end FileSystem

/-- The disk with variables added to the environment file. -/
def appendEnv (d : Disk) (directory : FilePath) (assignments : List (String × String)) :
    Except Failure Disk :=
  FileSystem.toExcept (writeEnv d directory assignments)

/-- The disk with the example of the environment file. -/
def writeExample (d : Disk) (directory : FilePath) (names : List String) : Except Failure Disk :=
  FileSystem.toExcept (writeEnvExample d directory names)

/-- The disk with the list of what a repository ignores completed; nothing if it is
complete. -/
def completeGitignore (d : Disk) (directory : FilePath) : Except Failure (Option Disk) :=
  match writeGitignore d directory with
  | (_, .error f) => .error f
  | (_, .ok false) => .ok none
  | (d, .ok true) => .ok (some d)

end SecretScan.Remediation

import SecretScan.CommandLine.Run

/-!
# The program

The outer layer: it reads the files below the working directory and below what the words
of the command name, lets the command run on them, writes back the files that changed, and
prints. Everything else is decided by the command.
-/

namespace SecretScan.Program

open CommandLine (Outcome)
open Console (Entry)
open Files (Disk Node)

/-- The names on the way to an absolute path. -/
def placeOf (path : String) : List String := FilePath.namesOf path.toList

/-- Reads what is below a path. Directories are not entered through links. -/
partial def load (d : Disk) (entry : IO.FS.DirEntry) : IO Disk := do
  let path := entry.path
  let place := placeOf path.toString
  let linked := (← path.symlinkMetadata).type == .symlink
  if ← path.isDir then
    if linked then return d
    match ← path.readDir.toBaseIO with
    | .ok entries =>
      entries.foldlM load { d with tree := d.tree.put place ((d.tree.get? place).getD .empty) }
    | .error _ => return { d with tree := d.tree.put place .empty, closed := place :: d.closed }
  else
    match ← (IO.FS.readBinFile path).toBaseIO with
    | .ok bytes => return { d with tree := d.tree.put place (.file bytes.toList) }
    | .error _ => return d

/-- Reads what a word names, if it names anything. -/
def loadWord (d : Disk) (word : String) : IO Disk := do
  match ← (IO.FS.realPath word).toBaseIO with
  | .ok path =>
    match path.parent, path.fileName with
    | some root, some fileName => load d { root, fileName }
    | _, _ => return d
  | .error _ => return d

/-- The files of one disk that another one does not have in the same form. -/
def changedFiles (before after : Disk) : List (List String × List UInt8) :=
  let old := before.tree.files []
  (after.tree.files []).filter fun (place, bytes) => old.lookup place != some bytes

/-- Writes the files that changed. -/
def store (before after : Disk) : IO Unit :=
  (changedFiles before after).forM fun (place, bytes) =>
    IO.FS.writeBinFile ("/" ++ Text.join "/" place) bytes.toByteArray

/-- The lines of an entry. -/
def linesOf : Entry → List String
  | .text s => [s]
  | .table title columns rows => title :: (columns :: rows).map (Text.join " | ")

/-- The settings in the environment. -/
def environment : IO ConfigVariables := do
  let found ← ["VIBECURB_EXTENSIONS", "VIBECURB_EXCLUDE", "VIBECURB_SEVERITY",
    "VIBECURB_RULES"].mapM fun name => return (name, ← IO.getEnv name)
  return ConfigVariables.ofLookup fun name => (found.lookup name).join

/-- Prints what a run has to say. -/
def print (o : Outcome) : IO Unit := do
  o.session.notices.forM fun n => IO.eprintln n.line
  (o.session.entries.flatMap linesOf).forM fun line => IO.eprintln line
  IO.eprint o.complaint
  (o.fault.toList).forM fun name => IO.eprintln name
  IO.print o.session.output

end SecretScan.Program

open SecretScan in
/-- Runs the program with the given words in the working directory. -/
def main (words : List String) : IO UInt32 := do
  let here := (← IO.currentDir).toString
  let empty : Files.Disk := { tree := .empty, here := Program.placeOf here }
  let disk ← (here :: words).foldlM Program.loadWord empty
  let outcome := CommandLine.run disk (← Program.environment) words
  Program.store disk outcome.session.disk
  Program.print outcome
  return outcome.exitCode.toUInt32

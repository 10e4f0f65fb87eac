import SecretScan.Files.Error
import SecretScan.Files.Tree
import SecretScan.Text.LineEnds
import SecretScan.Text.Search
import SecretScan.Text.Utf8

/-!
# Disks

A disk is a tree of files together with the directory in which one works, from which
paths without a slash in front start. Some directories may not be looked into.

A path is followed name by name. On the way there have to be directories, so a path
through a file leads nowhere even if it comes back from there.
-/

namespace SecretScan.Files

/-- A tree of files, seen from one of its directories. -/
structure Disk where
  tree : Node
  /-- The names on the way to the directory in which one works. -/
  here : List String := []
  /-- The directories that may not be looked into. -/
  closed : List (List String) := []

/-- Why nothing is found. -/
inductive Lost where
  | missing
  | throughFile
  | longName
deriving DecidableEq, Repr

/-- The failure that a lost path shows as. -/
def Lost.toError (path : String) : Lost → SystemError
  | missing => .notFound path
  | throughFile => .notDirectory path
  | longName => .nameTooLong path

namespace Disk

/-- The most bytes that a name may have. -/
def nameLimit : Nat := 255

/-- Follows names from a directory on: the names of the place to which they lead. The
place itself may be empty, but its directory is there. -/
def follow (tree : Node) (place : List String) : List String → Except Lost (List String)
  | [] => .ok place
  | name :: rest =>
    match tree.get? place with
    | none => .error .missing
    | some (.file _) => .error .throughFile
    | some (.directory _) =>
      if name = "" || name = "." then follow tree place rest
      else if name = ".." then follow tree place.dropLast rest
      else if nameLimit < (Text.encodeUtf8 name.toList).length then .error .longName
      else follow tree (place ++ [name]) rest

/-- The names of the place to which a path leads. -/
def locate (d : Disk) (path : String) : Except Lost (List String) :=
  if path = "" then .error .missing
  else
    let start := if path.toList.head? = some '/' then [] else d.here
    follow d.tree start ((Text.splitAt '/' path.toList).map String.ofList)

/-- What stands at the place to which a path leads. -/
def node (d : Disk) (path : String) : Except Lost Node := do
  match d.tree.get? (← d.locate path) with
  | some n => return n
  | none => throw .missing

/-- Whether something stands at a path. -/
def exists? (d : Disk) (path : String) : Except SystemError Bool :=
  match d.node path with
  | .ok _ => .ok true
  | .error .longName => .error (.nameTooLong path)
  | .error _ => .ok false

/-- Whether a file stands at a path. -/
def isFile (d : Disk) (path : String) : Except SystemError Bool :=
  match d.node path with
  | .ok n => .ok !n.isDirectory
  | .error .longName => .error (.nameTooLong path)
  | .error _ => .ok false

/-- The bytes of a file. -/
def read (d : Disk) (path : String) : Except SystemError (List UInt8) :=
  match d.node path with
  | .ok (.file bytes) => .ok bytes
  | .ok (.directory _) => .error (.isDirectory path)
  | .error e => .error (e.toError path)

/-- The disk after a file was written. -/
def write (d : Disk) (path : String) (bytes : List UInt8) : Except SystemError Disk :=
  match d.locate path with
  | .error e => .error (e.toError path)
  | .ok place =>
    match d.tree.get? place with
    | some (.directory _) => .error (.isDirectory path)
    | _ => .ok { d with tree := d.tree.put place (.file bytes) }

/-- The disk after a text was written. -/
def writeText (d : Disk) (path : String) (s : List Char) : Except SystemError Disk :=
  d.write path (Text.encodeUtf8 s)

/-- The disk after a file was copied, its bytes unchanged. -/
def copy (d : Disk) (source target : String) : Except SystemError Disk := do
  d.write target (← d.read source)

end Disk

end SecretScan.Files

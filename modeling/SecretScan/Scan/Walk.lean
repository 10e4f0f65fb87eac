import SecretScan.FilePath
import SecretScan.Files.Tree

/-!
# Walking a tree

A walk meets the files of a directory by their names, then its directories by their
names. So the order in which a directory lists its entries makes no difference. A
directory whose name is excluded is not entered, and one that is closed is met but not
looked into.
-/

namespace SecretScan.Scan

open Files (Node)

/-- What a walk meets. -/
inductive Met where
  | file (path : FilePath) (bytes : List UInt8)
  /-- A directory that may not be looked into, as the walk spells it. -/
  | closedDirectory (spelling : String)
deriving DecidableEq, Repr

/-- Puts something in its place among others by their names. -/
def insertByName (item : String × α) : List (String × α) → List (String × α)
  | [] => [item]
  | other :: rest =>
    if item.1 ≤ other.1 then item :: other :: rest else other :: insertByName item rest

/-- Named things by their names. -/
def sortByName : List (String × α) → List (String × α)
  | [] => []
  | item :: rest => insertByName item (sortByName rest)

/-- The spelling of an entry of a directory. -/
def spell (directory name : String) : String :=
  if directory.toList.getLast? = some '/' then directory ++ name else directory ++ "/" ++ name

/-- The files of a directory. -/
def filesIn : List (String × Node) → List (String × List UInt8)
  | [] => []
  | (name, .file bytes) :: rest => (name, bytes) :: filesIn rest
  | (_, .directory _) :: rest => filesIn rest

mutual

/-- What a walk meets from a directory on. -/
def walk (excluded : List String) (closed : List (List String)) (place : List String)
    (spelling : String) : Node → List Met
  | .file _ => []
  | .directory entries =>
    if closed.contains place then [.closedDirectory spelling]
    else
      let here := FilePath.ofString spelling
      (sortByName (filesIn entries)).map (fun (name, bytes) =>
        .file (here.join (FilePath.ofString name)) bytes) ++
        (sortByName (walkEntries excluded closed place spelling entries)).flatMap (·.2)

/-- What a walk meets in each directory among the entries of a directory. -/
def walkEntries (excluded : List String) (closed : List (List String)) (place : List String)
    (spelling : String) : List (String × Node) → List (String × List Met)
  | [] => []
  | (name, n) :: rest =>
    if n.isDirectory && !excluded.contains name then
      (name, walk excluded closed (place ++ [name]) (spell spelling name) n) ::
        walkEntries excluded closed place spelling rest
    else walkEntries excluded closed place spelling rest

end

end SecretScan.Scan

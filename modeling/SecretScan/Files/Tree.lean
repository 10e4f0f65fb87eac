/-!
# Trees of files

A node is a file with its bytes, or a directory with named nodes in no particular order.
A node inside a directory is found by the names on the way to it.
-/

namespace SecretScan.Files

/-- A file or a directory. -/
inductive Node where
  | file (bytes : List UInt8)
  | directory (entries : List (String × Node))

namespace Node

/-- The directory with nothing in it. -/
def empty : Node := directory []

/-- Whether a node is a directory. -/
def isDirectory : Node → Bool
  | directory _ => true
  | file _ => false

/-- The node behind some names. -/
def get? : List String → Node → Option Node
  | [], n => some n
  | name :: rest, directory entries =>
    match entries.lookup name with
    | some n => n.get? rest
    | none => none
  | _ :: _, file _ => none

/-- Gives an entry another node, or makes a new entry. -/
def setEntry (name : String) (n : Node) : List (String × Node) → List (String × Node)
  | [] => [(name, n)]
  | (other, m) :: rest =>
    if other = name then (other, n) :: rest else (other, m) :: setEntry name n rest

/-- Puts a node behind some names. Directories that are missing on the way are made; a
file on the way stays as it is. -/
def put : List String → Node → Node → Node
  | [], _, new => new
  | name :: rest, directory entries, new =>
    directory (setEntry name (put rest ((entries.lookup name).getD empty) new) entries)
  | _ :: _, file bytes, _ => file bytes

/-- Removes the node behind some names. -/
def erase : List String → Node → Node
  | [], n => n
  | [name], directory entries => directory (entries.filter fun (other, _) => other ≠ name)
  | name :: rest, directory entries =>
    match entries.lookup name with
    | some n => directory (setEntry name (n.erase rest) entries)
    | none => directory entries
  | _ :: _, file bytes => file bytes

mutual

/-- All files in a node, each with the names on the way to it. -/
def files (here : List String) : Node → List (List String × List UInt8)
  | file bytes => [(here, bytes)]
  | directory entries => filesOf here entries

/-- All files in the entries of a directory. -/
def filesOf (here : List String) : List (String × Node) → List (List String × List UInt8)
  | [] => []
  | (name, n) :: rest => files (here ++ [name]) n ++ filesOf here rest

end

end Node

end SecretScan.Files

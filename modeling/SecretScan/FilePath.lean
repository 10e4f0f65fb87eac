import SecretScan.Text.LetterCase
import SecretScan.Text.Search

/-!
# File paths

A path is a root, which may be empty, and the names that lead from it to a file.
Empty names and the name of the current directory lead nowhere and are dropped;
the name of the parent directory is kept, because what it means depends on the
files.
-/

namespace SecretScan

/-- A path in its normal form. -/
structure FilePath where
  /-- Nothing, one slash, or the two slashes that some systems tell apart. -/
  root : String
  names : List String
deriving DecidableEq, Repr

namespace FilePath

/-- The root of a written path. -/
def rootOf : List Char → String
  | '/' :: '/' :: '/' :: _ => "/"
  | '/' :: '/' :: _ => "//"
  | '/' :: _ => "/"
  | _ => ""

/-- The names between the slashes of a written path. -/
def namesOf (s : List Char) : List String :=
  ((Text.splitAt '/' s).map String.ofList).filter fun n => n ≠ "" && n ≠ "."

/-- The normal form of a written path. -/
def ofString (s : String) : FilePath :=
  ⟨rootOf s.toList, namesOf s.toList⟩

/-- The written form of a path; the empty path is the current directory. -/
def toString (p : FilePath) : String :=
  if p.root = "" && p.names.isEmpty then "." else p.root ++ Text.join "/" p.names

/-- Whether a path starts at a root. -/
def isAbsolute (p : FilePath) : Bool := p.root ≠ ""

/-- The last name of a path, which is empty for a root and for the current directory. -/
def name (p : FilePath) : String := p.names.getLastD ""

/-- The directory that a path lies in. -/
def parent (p : FilePath) : FilePath := ⟨p.root, p.names.dropLast⟩

/-- A path seen from another one. -/
def join (p q : FilePath) : FilePath :=
  if q.isAbsolute then q else ⟨p.root, p.names ++ q.names⟩

/-- Adds a name to names that are given in reverse; the name of the parent directory takes
the last one back, and stays only where there is nothing to take back and no root. -/
def stepTo (root : String) (reversed : List String) (name : String) : List String :=
  if name ≠ ".." then name :: reversed
  else match reversed with
    | [] => if root = "" then [name] else []
    | last :: rest => if last = ".." then name :: reversed else rest

/-- The path without detours through parent directories. -/
def direct (p : FilePath) : FilePath :=
  ⟨p.root, (p.names.foldl (stepTo p.root) []).reverse⟩

/-- The part of a name from its last dot on, given in reverse, and what stands
before it. -/
def lastDot : List Char → List Char → Option (List Char × List Char)
  | _, [] => none
  | after, '.' :: before => some ('.' :: after, before)
  | after, c :: before => lastDot (c :: after) before

/-- The suffix of a name: from its last dot on, unless the name begins or ends with
that dot. -/
def suffixOf (name : String) : String :=
  match lastDot [] name.toList.reverse with
  | some (_ :: c :: rest, _ :: _) => String.ofList ('.' :: c :: rest)
  | _ => ""

/-- The suffix of the last name of a path. -/
def suffix (p : FilePath) : String := suffixOf p.name

/-- The suffix in lower case, by which kinds of files are told apart. -/
def kind (p : FilePath) : String := Text.lowerText p.suffix

end FilePath

end SecretScan

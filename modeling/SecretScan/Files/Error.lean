import SecretScan.Text.Quoted

/-!
# Failures of the operating system

The system numbers its failures. Several numbers share a name, and a number that
has none of its own goes by the name of the whole family.
-/

namespace SecretScan.Files

/-- Why an operation on files failed. -/
inductive SystemError where
  /-- A failure with its number, its wording, and the path that it is about. -/
  | numbered (number : Int) (wording : String) (path : Option String)
  /-- A failure without a number. -/
  | worded (wording : String)
  /-- A scan of a path where nothing is. -/
  | nothingAt (path : String)
deriving DecidableEq, Repr

namespace SystemError

/-- The names of the failures that have one, with their numbers. -/
def namesByNumber : List (String × List Int) :=
  [("PermissionError", [1, 13]), ("FileNotFoundError", [2]), ("ProcessLookupError", [3]),
   ("InterruptedError", [4]), ("ChildProcessError", [10]), ("BlockingIOError", [11, 114, 115]),
   ("FileExistsError", [17]), ("NotADirectoryError", [20]), ("IsADirectoryError", [21]),
   ("BrokenPipeError", [32, 108]), ("ConnectionAbortedError", [103]),
   ("ConnectionResetError", [104]), ("TimeoutError", [110]), ("ConnectionRefusedError", [111])]

/-- The name of the whole family. -/
def familyName : String := "OSError"

/-- The name of a failure. -/
def name : SystemError → String
  | numbered number _ _ =>
    ((namesByNumber.find? fun (_, numbers) => numbers.contains number).map (·.1)).getD familyName
  | worded _ => familyName
  | nothingAt _ => "FileNotFoundError"

/-- The full wording of a failure. -/
def message : SystemError → String
  | numbered number wording path =>
    "[Errno " ++ toString number ++ "] " ++ wording ++
      match path with
      | some p => ": " ++ Text.quoted p
      | none => ""
  | worded wording => wording
  | nothingAt path => "Path does not exist: " ++ path

/-- The short wording of a failure, which does not say what it is about. -/
def describe : SystemError → String
  | numbered number wording path =>
    if wording = "" then name (numbered number wording path) else wording
  | e => e.name

/-- Nothing has this path. -/
def notFound (path : String) : SystemError := numbered 2 "No such file or directory" (some path)

/-- A directory stands where a file is needed. -/
def isDirectory (path : String) : SystemError := numbered 21 "Is a directory" (some path)

/-- A file stands where a directory is needed. -/
def notDirectory (path : String) : SystemError := numbered 20 "Not a directory" (some path)

/-- Looking is not allowed. -/
def denied (path : String) : SystemError := numbered 13 "Permission denied" (some path)

/-- A name in the path is longer than names may be. -/
def nameTooLong (path : String) : SystemError := numbered 36 "File name too long" (some path)

end SystemError

end SecretScan.Files

import SecretScan.Failure
import SecretScan.Files.Disk

/-!
# Files of text

A file of text is read whole. Its line ends are kept where the text is to be written
again, and unified where it is only looked at.
-/

namespace SecretScan.Files

/-- The text in the bytes of a file, if these were read. -/
def textOf : Except SystemError (List UInt8) → Except Failure (List Char)
  | .error e => .error (.system e)
  | .ok bytes =>
    match Text.decodeUtf8 bytes with
    | some s => .ok s
    | none => .error (.undecodable (Text.utf8Fault? bytes))

namespace Disk

/-- The text of a file, its line ends unchanged. -/
def readText (d : Disk) (path : String) : Except Failure (List Char) := textOf (d.read path)

/-- The text of a file with a line feed at the end of every line. -/
def readLines (d : Disk) (path : String) : Except Failure (List Char) :=
  (d.readText path).map Text.unifyLineEnds

end Disk

end SecretScan.Files

import SecretScan.Files.Text

/-!
# File systems

A program asks whether something stands at a path, reads files, writes them and copies
them. What writing does besides is not its affair: paths may lead to one file by links, and
an operation that fails may have done a part of its work.

On a disk there are no links, and what fails leaves it as it was.
-/

namespace SecretScan.Files

/-- The operations on files that a program needs. An operation that writes says what the
files are like after it, and why it failed if it did. -/
class FileSystem (σ : Type) where
  exists? : σ → String → Except SystemError Bool
  read : σ → String → Except SystemError (List UInt8)
  write : σ → String → List UInt8 → σ × Option SystemError
  /-- Copies a file to another path, its bytes unchanged. -/
  copy : σ → String → String → σ × Option SystemError

namespace FileSystem

/-- What has come of an operation that leaves nothing behind if it fails. -/
def orSame {σ ε : Type} (d : σ) : Except ε σ → σ × Option ε
  | .ok d' => (d', none)
  | .error e => (d, some e)

/-- What is left of an operation if nothing that failed is to be kept. -/
def toExcept {σ ε : Type} : σ × Option ε → Except ε σ
  | (d, none) => .ok d
  | (_, some e) => .error e

instance disk : FileSystem Disk where
  exists? := Disk.exists?
  read := Disk.read
  write d path bytes := orSame d (d.write path bytes)
  copy d source target := orSame d (d.copy source target)

variable {σ : Type} [FileSystem σ]

/-- The text of a file, its line ends unchanged. -/
def readText (d : σ) (path : String) : Except Failure (List Char) := textOf (read d path)

/-- Writes a text. -/
def writeText (d : σ) (path : String) (s : List Char) : σ × Option Failure :=
  let (d, e) := write d path (Text.encodeUtf8 s)
  (d, e.map .system)

end FileSystem

end SecretScan.Files

import SecretScan.CommandLine.Misuse
import SecretScan.Console.Entry
import SecretScan.Failure
import SecretScan.Files.Disk
import SecretScan.Notice

/-!
# Sessions

A command works on a disk, writes to its output and to a console, and puts notices down.
It can stop at any point; what it did until then stays.
-/

namespace SecretScan.CommandLine

open Console (Entry Markup)
open Files (Disk)

/-- What a command has done so far. -/
structure Session where
  disk : Disk
  output : String := ""
  entries : List Entry := []
  notices : List Notice := []

/-- Why a command stopped. -/
inductive Stop where
  | finished (exitCode : Nat)
  | misuse (m : Misuse)
  | failure (f : Failure)
  /-- A text for the console whose tags cannot be followed. -/
  | badMarkup

/-- A step of a command. -/
abbrev Step := ExceptT Stop (StateM Session)

namespace Step

/-- Stops with an exit code. -/
def finish (exitCode : Nat) : Step α := throw (.finished exitCode)

/-- Goes on with a result, or stops with its failure. -/
def orFail : Except Failure α → Step α
  | .ok a => pure a
  | .error f => throw (.failure f)

/-- Writes a line to the output. -/
def write (line : String) : Step Unit :=
  modify fun s => { s with output := s.output ++ line ++ "\n" }

/-- Puts notices down. -/
def note (notices : List Notice) : Step Unit :=
  modify fun s => { s with notices := s.notices ++ notices }

variable [Markup]

/-- Shows an entry on the console. -/
def display (entry : Entry) : Step Unit :=
  match entry.shown? with
  | some shown => modify fun s => { s with entries := s.entries ++ [shown] }
  | none => throw .badMarkup

/-- Shows entries on the console. -/
def showAll (entries : List Entry) : Step Unit := entries.forM Step.display

/-- Shows a marked-up text on the console. -/
def print (s : String) : Step Unit := Step.display (.text s)

/-- Shows a text without markup on the console. -/
def printPlain (s : String) : Step Unit :=
  modify fun session => { session with
    entries := session.entries ++ [.text (Markup.unmarked s)] }

end Step

end SecretScan.CommandLine

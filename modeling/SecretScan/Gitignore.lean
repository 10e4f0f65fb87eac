import SecretScan.Text.Search

/-!
# Ignored files

Files with secrets are kept out of a repository by the lines of one of its files. Only
lines that are missing are added, and what is there stays as it is.
-/

namespace SecretScan.Gitignore

/-- The name of the file that lists what is ignored. -/
def fileName : String := ".gitignore"

/-- The lines that have to be there. -/
def required : List String := [".env", ".env.local", ".env.*.local"]

/-- A line without the carriage returns at its end. -/
def trimEnd (line : List Char) : List Char :=
  (line.reverse.dropWhile (· == '\r')).reverse

/-- The required lines that a text does not have. -/
def missing (s : List Char) : List String :=
  let present := (Text.lines s).map trimEnd
  required.filter fun entry => !present.contains entry.toList

/-- Lines with a line feed behind each. -/
def rendered (entries : List String) : List Char :=
  entries.flatMap fun entry => entry.toList ++ ['\n']

/-- A text with the required lines, if it has to change for them. -/
def completed? (existing : Option (List Char)) : Option (List Char) :=
  match existing with
  | none => some (rendered required)
  | some s =>
    match missing s with
    | [] => none
    | entries =>
      let start :=
        match s.getLast? with
        | none => s
        | some c => if c = '\n' then s else s ++ ['\n']
      some (start ++ rendered entries)

end SecretScan.Gitignore

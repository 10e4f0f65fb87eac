import SecretScan.Script.Program
import SecretScan.Text.Search

/-!
# Importing what references need

A reference to a variable needs the module that holds the variables. If no statement of
the script itself gives it its name, an import is put in front: behind the description
of the script and the imports that have to come first, or else behind the comments at
its beginning.
-/

namespace SecretScan.Script

/-- The module that holds the variables. -/
def variablesModule : String := "os"

/-- The module from which must be imported first. -/
def firstModule : String := "__future__"

/-- Whether an import gives the module with the variables its name. -/
def ImportedModule.bindsVariables (m : ImportedModule) : Bool :=
  match m.alternative with
  | some name => name = variablesModule
  | none => m.path.head? = some variablesModule

/-- Whether a statement gives the module with the variables its name. -/
def Statement.bindsVariables (s : Statement) : Bool :=
  match s.kind with
  | .imports modules => modules.any (·.bindsVariables)
  | _ => false

/-- Whether a statement has to come before other imports. -/
def Statement.comesFirst (s : Statement) : Bool :=
  s.kind = .importsFrom [firstModule]

/-- The number of lines that have to come before an import. -/
def leadingLines : List Statement → Nat
  | [] => 0
  | first :: rest =>
    let leading := rest.takeWhile (·.comesFirst)
    if first.kind = .text || first.comesFirst then
      (leading.getLast?.map (·.lastLine)).getD first.lastLine
    else 0

/-- The number of comments at the beginning. -/
def leadingComments (lines : List (List Char)) : Nat :=
  (lines.takeWhile fun line => line.head? = some '#').length

/-- The end of a line in a text. -/
def lineEndOf (s : List Char) : List Char :=
  if Text.occursIn ['\r', '\n'] s then ['\r', '\n'] else ['\n']

/-- Puts an import behind so many lines, the last of which gets a line feed if it has
none. -/
def insertImport (s : List Char) (leading : Nat) : List Char :=
  let lineEnd := lineEndOf s
  let lines := Text.linesWithEnds s
  let before := (lines.take leading).flatten
  let ended := leading = 0 || before.getLast? = some '\n'
  before ++ (if ended then [] else lineEnd) ++ ("import ".toList ++ variablesModule.toList) ++
    lineEnd ++ (lines.drop leading).flatten

/-- What is said about a script with a null character. -/
def nullMessage : String := "source code string cannot contain null bytes"

/-- Sees to it that a script imports the module with the variables. A text that is no
script is left as it is; a null character in it is refused. -/
def withVariables (s : List Char) : Except String (List Char) :=
  if s.contains '\x00' then .error nullMessage
  else
    match read? s with
    | none => .ok s
    | some statements =>
      if statements.any (·.bindsVariables) then .ok s
      else
        let leading := leadingLines statements
        .ok (insertImport s
          (if leading = 0 then leadingComments (Text.linesWithEnds s) else leading))

end SecretScan.Script

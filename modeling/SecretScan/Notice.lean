import SecretScan.Text.Search

/-!
# Notices

What is put down about failures that do not stop a run, and about a run that stopped.
A notice names files but never quotes what is in them.
-/

namespace SecretScan

/-- Something worth putting down. -/
inductive Notice where
  | unreadableFile (name description : String)
  | unreadableDirectory (path description : String)
  /-- A remediation that stopped after so many files. -/
  | stopped (files : Nat) (description : String)
deriving DecidableEq, Repr

namespace Notice

/-- How serious a notice is. -/
def level : Notice → String
  | unreadableFile _ _ => "WARNING"
  | unreadableDirectory _ _ => "WARNING"
  | stopped _ _ => "ERROR"

/-- The wording of a notice. -/
def message : Notice → String
  | unreadableFile name description => "Error reading file: " ++ name ++ " (" ++ description ++ ")"
  | unreadableDirectory path description =>
    "Cannot read directory " ++ path ++ " (" ++ description ++ ")"
  | stopped files description =>
    "Auto-fix aborted after " ++ toString files ++ " file(s): " ++ description

/-- A notice on a line of its own. -/
def line (n : Notice) : String := n.level ++ ": " ++ n.message

end Notice

end SecretScan

import SecretScan.Env.Mapping
import SecretScan.Rewrite.Literal

/-!
# What a remediation would do

Findings are handled file by file, in the order in which the files were first
met. A preview names the variables and the files without touching anything.
-/

namespace SecretScan.Remediation

/-- Adds a numbered finding to the group of its file. -/
def addToGroup (item : Nat × Finding) :
    List (String × List (Nat × Finding)) → List (String × List (Nat × Finding))
  | [] => [(item.2.file, [item])]
  | (file, group) :: rest =>
    if file = item.2.file then (file, group ++ [item]) :: rest
    else (file, group) :: addToGroup item rest

/-- Numbered findings file by file, in the order of the first finding in each. -/
def groupByFile (items : List (Nat × Finding)) : List (String × List (Nat × Finding)) :=
  items.foldl (fun groups item => addToGroup item groups) []

/-- Findings with their numbers. -/
def numbered (findings : List Finding) : List (Nat × Finding) :=
  (List.range findings.length).zip findings

/-- Whether any finding of a group can be rewritten. -/
def hasRewritable (group : List (Nat × Finding)) : Bool :=
  group.any fun (_, f) => Rewrite.isRewritable f.rule

/-- How much of a value a preview shows. -/
def previewLimit : Nat := 20

/-- What a remediation would do. -/
structure Preview where
  assignments : List String
  files : List String
deriving DecidableEq, Repr

/-- The preview for a list of findings. -/
def preview (findings : List Finding) : Preview :=
  let mapping := Env.Mapping.ofFindings findings
  { assignments := mapping.entries.map fun e =>
      e.name ++ "=" ++ Finding.clip previewLimit e.value ++ "..."
    files := ((groupByFile (numbered findings)).filter fun (_, g) => hasRewritable g).map (·.1) }

end SecretScan.Remediation

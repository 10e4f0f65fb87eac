import SecretScan.Rewrite.Content
import SecretScan.Script.Import

/-!
# Rewriting a source file

A script in which literals were replaced also has to import what the references need.
-/

namespace SecretScan.Rewrite

/-- The new text of a file, and the numbers of the findings whose literal was replaced. -/
structure NewSource where
  text : List Char
  resolved : List Nat
deriving DecidableEq, Repr

/-- The text of a file with the literals of its findings replaced by references. -/
def source (mapping : Env.Mapping) (file : FilePath) (s : List Char)
    (findings : List (Nat × Finding)) : Except String NewSource := do
  let r := literalsIn mapping file s findings
  if r.edits.isEmpty || file.kind ≠ lookupSuffix then return ⟨r.text, r.resolved⟩
  return ⟨← Script.withVariables r.text, r.resolved⟩

end SecretScan.Rewrite

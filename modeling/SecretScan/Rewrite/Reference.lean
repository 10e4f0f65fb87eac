import SecretScan.FilePath

/-!
# References to variables

In a code file an expression takes the place of the whole literal, quotes
included. A file of any other kind keeps its quotes, and the variable is named
between braces after a dollar sign.
-/

namespace SecretScan.Rewrite

/-- What stands in the place of a literal. -/
structure Reference where
  text : String
  /-- Whether the quotes of the literal go as well. -/
  replacesQuotes : Bool
deriving DecidableEq, Repr

/-- The suffixes of files in which variables are fields of one object. -/
def objectSuffixes : List String := [".js", ".jsx", ".ts", ".tsx", ".mjs", ".cjs"]

/-- The suffix of files in which variables are looked up by their names. -/
def lookupSuffix : String := ".py"

/-- The reference to a variable in a file. -/
def reference (name : String) (file : FilePath) : Reference :=
  if objectSuffixes.contains file.kind then ⟨"process.env." ++ name, true⟩
  else if file.kind = lookupSuffix then ⟨"os.environ[\"" ++ name ++ "\"]", true⟩
  else ⟨"$\x7b" ++ name ++ "\x7d", false⟩

end SecretScan.Rewrite

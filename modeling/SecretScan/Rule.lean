import SecretScan.Finding
import SecretScan.Pattern.Build
import SecretScan.Pattern.Match

/-!
# Rules and catalogs

A rule looks at single lines. A content check looks at the whole text and reports
places in it. A catalog is an ordered list of rules with its checks, and says whether
matches that look like placeholders are dropped.
-/

namespace SecretScan

/-- A matcher for single lines, with what to say about its matches. -/
structure Rule where
  name : String
  pattern : Pattern
  /-- The group that holds the secret, if it is not the whole match. -/
  secretGroup : Option Nat := none
  severity : Severity
  message : String
  fix : String
  category : Option Category := none
deriving DecidableEq, Repr

/-- A place that a content check reports, and what it says of the text there. -/
structure Hit where
  line : Int
  column : Int
  text : String
deriving DecidableEq, Repr

/-- A look at a text as a whole. -/
structure ContentCheck where
  name : String
  description : String
  severity : Severity
  category : Category
  /-- The places in a text that the check reports. -/
  locate : List Char → List Hit
  fix : String := "Review this code for security issues"

/-- The matches of a pattern on lines that are numbered from `line` on; what is reported
is the whole line. -/
def ContentCheck.hitsOnLines (pattern : Pattern) (line : Nat) : List (List Char) → List Hit
  | [] => []
  | text :: rest =>
    (pattern.allIn text).map (fun m => ⟨line, m.start + 1, String.ofList text⟩) ++
      hitsOnLines pattern (line + 1) rest

/-- An ordered set of rules. -/
structure Catalog where
  name : String
  rules : List Rule
  checks : List ContentCheck := []
  /-- Whether matches that look like placeholders are dropped. -/
  suppress : Bool := true

namespace Catalog

/-- The names of the rules, in order. -/
def ruleNames (c : Catalog) : List String :=
  c.rules.map (·.name)

/-- The rule with a name. -/
def get? (c : Catalog) (name : String) : Option Rule :=
  c.rules.find? (·.name = name)

/-- The first name that repeats one of `taken` or one before it. -/
def firstRepeated? (taken : List String) : List String → Option String
  | [] => none
  | n :: rest => if taken.contains n then some n else firstRepeated? (n :: taken) rest

/-- The catalog with more rules at its end; a name that is taken stands in the way. -/
def extend (c : Catalog) (rules : List Rule) : Except String Catalog :=
  match firstRepeated? c.ruleNames (rules.map (·.name)) with
  | some name => .error name
  | none => .ok { c with rules := c.rules ++ rules }

/-- What is said about a name that is taken. -/
def takenMessage (name : String) : String :=
  "Duplicate rule name: " ++ name

end Catalog

end SecretScan

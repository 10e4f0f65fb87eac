import SecretScan.Rule
import SecretScan.Suppression

/-!
# Scanning a text

A text is scanned line by line. On each line the findings follow the order of the
catalog, those of one rule run from left to right, and the hits of the content checks
come last, check by check. So a line contributes the same findings of rules wherever it
stands but for its number. Hits on lines that the text does not have come after all
others, by the numbers of their lines.
-/

namespace SecretScan.Scan

/-- The finding that a match of a rule amounts to. -/
def ruleFinding (file : String) (line : Nat) (rule : Rule) (m : Match) : Finding :=
  let matched := String.ofList m.text
  let secret :=
    match rule.secretGroup.bind m.group? with
    | some (c :: rest) => String.ofList (c :: rest)
    | _ => matched
  { file, line, column := m.start + 1, shown := Finding.clip Finding.shownLimit matched
    rule := rule.name, severity := rule.severity, message := rule.message, fix := rule.fix
    category := rule.category, matched, secret }

/-- Whether a match is reported: it is not empty, and not a placeholder where those
are dropped. -/
def isReported (suppress : Bool) (m : Match) : Bool :=
  !m.text.isEmpty && !(suppress && Suppression.isSuppressed m.text)

/-- The findings of one rule on a line. -/
def ruleFindings (suppress : Bool) (file : String) (line : Nat) (text : List Char) (rule : Rule) :
    List Finding :=
  ((rule.pattern.allIn text).filter (isReported suppress)).map (ruleFinding file line rule)

/-- The finding that a hit of a content check amounts to. -/
def checkFinding (file : String) (check : ContentCheck) (hit : Hit) : Finding :=
  { file, line := hit.line, column := hit.column
    shown := Finding.clip Finding.shownLimit hit.text
    rule := check.name, severity := check.severity, message := check.description
    fix := check.fix, category := some check.category, matched := hit.text }

/-- The findings of content checks in a text, check by check. -/
def checkFindings (file : String) (s : List Char) (checks : List ContentCheck) : List Finding :=
  checks.flatMap fun check => (check.locate s).map (checkFinding file check)

/-- The findings on a line, given those of the content checks in the whole text. -/
def lineFindings (catalog : Catalog) (rules : List Rule) (hits : List Finding)
    (file : String) (line : Nat) (text : List Char) : List Finding :=
  rules.flatMap (ruleFindings catalog.suppress file line text) ++
    hits.filter fun f => f.line = (line : Int)

/-- The findings on lines that are numbered from `line` on. -/
def linesFindings (catalog : Catalog) (rules : List Rule) (hits : List Finding)
    (file : String) (line : Nat) : List (List Char) → List Finding
  | [] => []
  | text :: rest =>
    lineFindings catalog rules hits file line text ++
      linesFindings catalog rules hits file (line + 1) rest

/-- Puts a finding in its place among findings by their lines, before those of its own
line. -/
def insertByLine (f : Finding) : List Finding → List Finding
  | [] => [f]
  | g :: rest => if f.line ≤ g.line then f :: g :: rest else g :: insertByLine f rest

/-- Findings by their lines; those of one line keep their order. -/
def sortByLine : List Finding → List Finding
  | [] => []
  | f :: rest => insertByLine f (sortByLine rest)

/-- The findings in a text, line by line. -/
def content (catalog : Catalog) (filter : SeverityFilter) (file text : String) : List Finding :=
  let s := text.toList
  let lines := Text.lines s
  let rules := catalog.rules.filter fun r => filter.passes r.severity
  let hits := checkFindings file s (catalog.checks.filter fun c => filter.passes c.severity)
  linesFindings catalog rules hits file 1 lines ++
    sortByLine (hits.filter fun f => f.line < 1 || lines.length < f.line)

end SecretScan.Scan

import SecretScan.Env.Mapping
import SecretScan.Rewrite.Edit
import SecretScan.Rewrite.Literal
import SecretScan.Rewrite.Reference
import SecretScan.Text.Search

/-!
# Rewriting a text

Every finding that has a variable and a rule with literals is a claim on the
literal around the place where it was reported. The rules are gone through in
order, the literals of a rule from left to right; a literal that no earlier one
overlaps, and that some claim owns, becomes an edit. The first claim that owns a
literal is the one that is settled by it.

Findings may be equal to each other, so a claim carries the number of its finding.
-/

namespace SecretScan.Rewrite

/-- A finding with its variable and the span at which it was reported. -/
structure Claim where
  index : Nat
  finding : Finding
  variableName : String
  start : Int
  stop : Int
deriving DecidableEq, Repr

/-- The positions at which the lines of a text begin. -/
def lineStarts (pos : Nat) : List (List Char) → List Nat
  | [] => []
  | line :: rest => pos :: lineStarts (pos + line.length + 1) rest

/-- The claim of a finding, if it has a variable, a rule with literals and a line. -/
def claim? (starts : List Nat) (mapping : Env.Mapping) (index : Nat) (f : Finding) :
    Option Claim :=
  if !isRewritable f.rule then none
  else
    match mapping.name? f, f.line with
    | some name, .ofNat (line + 1) =>
      match starts[line]? with
      | some lineStart =>
        let start := (lineStart : Int) + f.column - 1
        some ⟨index, f, name, start, start + f.key.length⟩
      | none => none
    | _, _ => none

/-- Whether the body of a literal holds a secret: it is the secret, or for a mail
address the secret behind a scheme. -/
def bodyHolds (rule : String) (body secret : List Char) : Bool :=
  body == secret || (rule == emailRule && (':' :: secret).isSuffixOf body)

/-- Whether a claim owns a literal: the literal encloses it and holds its secret. -/
def owns (rule : String) (m : Match) (c : Claim) : Bool :=
  decide ((m.start : Int) ≤ c.start) && decide (c.stop ≤ (m.stop : Int)) &&
    bodyHolds rule ((m.group? bodyGroup).getD []) c.finding.value.toList

/-- What takes the place of a literal. -/
def replacement (file : FilePath) (name : String) (m : Match) : List Char :=
  let kept := (m.group? prefixGroup).getD []
  let ref := reference name file
  if ref.replacesQuotes then kept ++ ref.text.toList
  else
    let quote := (m.group? quoteGroup).getD []
    kept ++ quote ++ ref.text.toList ++ quote

/-- An edit together with the claim that it settles. -/
structure Settlement where
  edit : Edit
  claim : Claim
deriving DecidableEq, Repr

/-- The settlement of a literal, if nothing overlaps it and some claim owns it. -/
def settle? (file : FilePath) (rule : String) (claims : List Claim) (done : List Settlement)
    (m : Match) : Option Settlement :=
  if done.any fun s => s.edit.overlaps m.start m.stop then none
  else (claims.find? (owns rule m)).map fun c =>
    ⟨⟨m.start, m.stop, replacement file c.variableName m⟩, c⟩

/-- The settlements after the literals of one rule, from left to right. -/
def settleAll (file : FilePath) (rule : String) (claims : List Claim) :
    List Settlement → List Match → List Settlement
  | done, [] => done
  | done, m :: rest =>
    settleAll file rule claims (done ++ (settle? file rule claims done m).toList) rest

/-- The settlements for a text, rule by rule. -/
def settlements (file : FilePath) (claims : List Claim) (s : List Char) :
    List Settlement → List (String × Pattern) → List Settlement
  | done, [] => done
  | done, (rule, pattern) :: rest =>
    let own := claims.filter (·.finding.rule = rule)
    let done := if own.isEmpty then done else settleAll file rule own done (pattern.allIn s)
    settlements file claims s done rest

/-- The claims of numbered findings. -/
def claims (mapping : Env.Mapping) (s : List Char) (findings : List (Nat × Finding)) :
    List Claim :=
  let starts := lineStarts 0 (Text.lines s)
  findings.filterMap fun (index, f) => claim? starts mapping index f

/-- A rewritten text: the edits, their result, and the numbers of the findings whose
literal was replaced. -/
structure Rewritten where
  edits : List Edit
  text : List Char
  resolved : List Nat
deriving DecidableEq, Repr

/-- Rewrites the literals that findings of a text own. -/
def literalsIn (mapping : Env.Mapping) (file : FilePath) (s : List Char)
    (findings : List (Nat × Finding)) : Rewritten :=
  let done := settlements file (claims mapping s findings) s [] literals
  let edits := done.map (·.edit)
  ⟨edits, Edit.applyAll edits s, done.map (·.claim.index)⟩

end SecretScan.Rewrite

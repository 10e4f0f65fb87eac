/-!
# Findings

A finding is a place in a text that a rule matched. It carries the matched text
twice: a shortened copy to show, and the full text, which identifies the secret
when it is moved into the environment. The secret proper may be only a part of
the match.
-/

namespace SecretScan

/-- How serious a finding is. -/
inductive Severity where
  | error
  | warning
deriving DecidableEq, Repr

namespace Severity

/-- The name of a severity. -/
def name : Severity → String
  | error => "error"
  | warning => "warning"

/-- The name of a severity in capitals. -/
def title : Severity → String
  | error => "ERROR"
  | warning => "WARNING"

/-- The severity with a name. -/
def ofName? : String → Option Severity
  | "error" => some error
  | "warning" => some warning
  | _ => none

end Severity

/-- Which severities are asked for. -/
inductive SeverityFilter where
  | all
  | only (s : Severity)
  /-- A filter that nothing passes, which is what an unknown name asks for. -/
  | nothing
deriving DecidableEq, Repr

namespace SeverityFilter

/-- The names of the filters that a user may ask for. -/
def names : List String := ["error", "warning", "all"]

/-- The filter with a name. -/
def ofName (s : String) : SeverityFilter :=
  if s = "all" then all
  else match Severity.ofName? s with
    | some severity => only severity
    | none => nothing

/-- Whether a severity passes. -/
@[simp]
def passes : SeverityFilter → Severity → Bool
  | all, _ => true
  | only s, t => s == t
  | nothing, _ => false

end SeverityFilter

/-- Where in the life of a request a finding sits. -/
inductive Category where
  | request
  | response
  | logging
  | errorHandling
deriving DecidableEq, Repr

namespace Category

/-- The name of a category. -/
def name : Category → String
  | request => "request"
  | response => "response"
  | logging => "logging"
  | errorHandling => "error-handling"

/-- All categories, in the order in which they are listed. -/
def all : List Category := [request, response, logging, errorHandling]

/-- The category with a name. -/
def ofName? (s : String) : Option Category :=
  all.find? (·.name = s)

end Category

/-- A match of a rule at a place in a file. -/
structure Finding where
  file : String
  line : Int
  column : Int
  /-- The copy of the match that may be shown. -/
  shown : String
  rule : String
  severity : Severity
  message : String
  fix : String
  category : Option Category := none
  /-- The whole match. -/
  matched : String := ""
  /-- The part of the match that is secret, if it is only a part. -/
  secret : String := ""
deriving DecidableEq, Repr

namespace Finding

/-- How much of a match may be shown. -/
def shownLimit : Nat := 100

/-- The first characters of a text. -/
def clip (n : Nat) (s : String) : String :=
  String.ofList (s.toList.take n)

/-- The text that identifies the secret: the whole match if it is known. -/
def key (f : Finding) : String :=
  if f.matched = "" then f.shown else f.matched

/-- The text that is moved into the environment. -/
def value (f : Finding) : String :=
  if f.secret = "" then f.key else f.secret

end Finding

end SecretScan

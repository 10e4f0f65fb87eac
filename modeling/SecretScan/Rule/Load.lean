import SecretScan.Pattern.Written
import SecretScan.Rule
import SecretScan.Yaml.Build

/-!
# Rules from a document

A document holds rules as a list of mappings, or as such a list under a key of its
own. A name, a pattern, a severity and a message are required of each. One bad entry
fails the whole document, and the failure names the first one.

A document can also fail for a reason that no entry is to blame for: a value or a
number in it that cannot be made. These failures keep the wording they have by
themselves.
-/

namespace SecretScan

open Yaml (Value Document SetOrder)

/-- What can be wrong with an entry. -/
inductive EntryFault where
  | notAMapping
  | missing (keys : List String)
  | severity
  | pattern (e : PatternError)
  | matchesNothing
deriving DecidableEq, Repr

/-- What can be wrong with a document of rules. -/
inductive RulesFault where
  | document (f : Yaml.Fault)
  | notAList
  | entry (index : Nat) (f : EntryFault)
  | repeatedName (name : String)
deriving DecidableEq, Repr

/-- Why no rules could be made from a text. -/
inductive RulesError where
  | declared (f : RulesFault)
  /-- A value or a number that cannot be made, with its wording. -/
  | value (message : String)
  /-- A failure without wording. -/
  | bare (f : Yaml.BareFault)
  /-- The document asks for one half of a character; what becomes of it is left open. -/
  | halfCharacter
deriving DecidableEq, Repr

namespace EntryFault

/-- The wording of a fault in an entry. -/
def message : EntryFault → String
  | notAMapping => "must be a mapping"
  | missing keys => "missing " ++ Text.join ", " keys
  | severity => "severity must be 'error' or 'warning'"
  | pattern e => "invalid pattern (" ++ e.message ++ ")"
  | matchesNothing => "pattern matches the empty string"

end EntryFault

/-- The wording of a fault, given where the text came from. -/
def RulesFault.message (source : String) : RulesFault → String
  | document f => source ++ ": invalid YAML (" ++ f.name ++ ")"
  | notAList => source ++ ": rules must be a list of mappings"
  | entry index f => source ++ ": rule #" ++ toString index ++ ": " ++ f.message
  | repeatedName name => source ++ ": duplicate rule name " ++ Text.quoted name

namespace Rule

/-- The fields that an entry must have. -/
def requiredKeys : List String := ["name", "pattern", "severity", "message"]

/-- What to do about a finding unless the entry says it. -/
def defaultFix : String := "Move this value to an environment variable"

/-- The name of the group that holds the secret. -/
def secretGroupName : String := "secret"

/-- A field counts as given only if its value counts as true. -/
def isGiven (entry : Value) (key : String) : Bool :=
  match entry.field? key with
  | some v => v.isTrue
  | none => false

/-- The text of a value, or the reason why it has none. -/
def textOf (v : Value) : Except RulesError String :=
  match v.toText with
  | .ok s => .ok s
  | .error message => .error (.value message)

/-- The text of a field. -/
def fieldText (entry : Value) (key : String) : Except RulesError String :=
  textOf ((entry.field? key).getD .null)

/-- The severity of an entry, in any case of letters. -/
def severityOf? (entry : Value) : Option Severity :=
  match fieldText entry "severity" with
  | .ok s => Severity.ofName? (Text.lowerText s)
  | .error _ => none

/-- The pattern of an entry. -/
def patternOf (index : Nat) (entry : Value) : Except RulesError NamedPattern := do
  let written ← fieldText entry "pattern"
  match NamedPattern.read { ignoreCase := isGiven entry "ignore_case" } written with
  | .ok p => return p
  | .error (.malformed e) => throw (.declared (.entry index (.pattern e)))
  | .error .countTooLarge => throw (.bare .codeTooLarge)
  | .error (.numberTooLong digits) => throw (.value (Text.tooLongMessage digits))
  | .error .bothScopes => throw (.value "ASCII and UNICODE flags are incompatible")

/-- The rule of an entry. -/
def ofEntry (index : Nat) (entry : Value) : Except RulesError Rule := do
  let fault := fun (f : EntryFault) => RulesError.declared (.entry index f)
  match entry with
  | .map _ => pure ()
  | _ => throw (fault .notAMapping)
  let missing := requiredKeys.filter (!isGiven entry ·)
  unless missing.isEmpty do throw (fault (.missing missing))
  let severity ←
    match severityOf? entry with
    | some s => pure s
    | none => throw (fault .severity)
  let p ← patternOf index entry
  if p.pattern.occursIn [] then throw (fault .matchesNothing)
  let name ← fieldText entry "name"
  let message ← fieldText entry "message"
  let fix ←
    match entry.field? "fix" with
    | some v => textOf v
    | none => pure defaultFix
  return { name, pattern := p.pattern, secretGroup := p.names.lookup secretGroupName, severity
           message, fix }

/-- The rules of entries that are numbered from `index` on; `seen` holds the names of
the rules before. -/
def ofEntries (index : Nat) (seen : List String) : List Value → Except RulesError (List Rule)
  | [] => .ok []
  | entry :: rest => do
    let rule ← ofEntry index entry
    if seen.contains rule.name then throw (.declared (.repeatedName rule.name))
    let rules ← ofEntries (index + 1) (rule.name :: seen) rest
    return rule :: rules

section Load

variable [SetOrder]

/-- The entries in a list: each is read field by field. -/
def listed (d : Document) (n : Nat) : Except RulesError (List Value) :=
  match d.items? d.fieldwise n with
  | some items => .ok items
  | none => .error (.declared .notAList)

/-- The entries of a document. -/
def entries : Option Document → Except RulesError (List Value)
  | none => .ok []
  | some d =>
    match d.fields? d.root, d.value d.root with
    | some fields, _ =>
      match Value.under? "rules" fields with
      | some n => listed d n
      | none => .ok []
    | none, .null => .ok []
    | none, _ => listed d d.root

/-- The rules in a text. -/
def load (text : String) : Except RulesError (List Rule) :=
  match Document.ofText text with
  | .error (.document c) => .error (.declared (.document c.fault))
  | .error (.value f) => .error (.value f.message)
  | .error (.bare f) => .error (.bare f)
  | .error .halfCharacter => .error .halfCharacter
  | .ok document => do ofEntries 1 [] (← entries document)

end Load

end Rule

end SecretScan

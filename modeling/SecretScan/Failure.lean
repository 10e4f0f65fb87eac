import SecretScan.Files.Error
import SecretScan.Rule.Load
import SecretScan.Text.Utf8Fault

/-!
# Failures

Everything that can stop an operation. A failure has a name; some have a wording,
and all can be described without quoting the content of a file.
-/

namespace SecretScan

/-- Why an operation stopped. -/
inductive Failure where
  | system (e : Files.SystemError)
  /-- Bytes that are no text, and where they stop being one. -/
  | undecodable (f : Option Text.Utf8Fault)
  /-- A text that has no bytes. -/
  | unencodable
  /-- A value that may not be. -/
  | value (message : String)
  /-- A document of rules that is none, with its source. -/
  | rules (source : String) (f : RulesFault)
  /-- A text that is no document, and what is said about it. -/
  | document (f : Yaml.Fault) (complaint : String)
  /-- A failure that has a name and nothing else. -/
  | bare (f : Yaml.BareFault)
  /-- A document asks for one half of a character; what becomes of it is left open. -/
  | halfCharacter
deriving DecidableEq, Repr

namespace Failure

/-- The name of a failure. -/
def name : Failure → String
  | system e => e.name
  | undecodable _ => "UnicodeDecodeError"
  | unencodable => "UnicodeEncodeError"
  | value _ => "ValueError"
  | rules _ _ => "RuleLoadError"
  | document f _ => f.name
  | bare f => f.name
  | halfCharacter => "HalfCharacter"

/-- The wording of a failure that has one. -/
def message? : Failure → Option String
  | system e => some e.message
  | value message => some message
  | rules source f => some (f.message source)
  | _ => none

/-- A description that quotes no content. -/
def describe : Failure → String
  | system e => e.describe
  | undecodable _ => "not valid UTF-8 text"
  | f => f.name

/-- What is said about a failure to someone who is to mend its cause. This may quote what
was read. -/
def wording : Failure → String
  | undecodable (some f) => f.message
  | document _ complaint => complaint
  | f => f.message?.getD f.describe

/-- The failure to load rules from a source. -/
def ofRulesError (source : String) : RulesError → Failure
  | .declared f => rules source f
  | .value message => value message
  | .bare f => bare f
  | .halfCharacter => halfCharacter

/-- The failure to read a document from a text. -/
def ofReadError (source : List Char) : Yaml.ReadError → Failure
  | .document c => document c.fault (c.message source)
  | .value f => value f.message
  | .bare f => bare f
  | .halfCharacter => halfCharacter

end Failure

/-- The rules in a text from a source. -/
def Rule.loadFrom [Yaml.SetOrder] (source text : String) : Except Failure (List Rule) :=
  (Rule.load text).mapError (Failure.ofRulesError source)

/-- The catalog with more rules at its end. -/
def Catalog.extended (c : Catalog) (rules : List Rule) : Except Failure Catalog :=
  (c.extend rules).mapError fun name => .value (Catalog.takenMessage name)

end SecretScan

import SecretScan.Yaml.Error
import SecretScan.Yaml.Position

/-!
# Tokens

The units of a document. Blocks have tokens of their own for their beginning and
end, which no character stands for; they come from the columns.
-/

namespace SecretScan.Yaml

/-- A tag as it is written: a handle, unless the tag is written in full, and the
rest. -/
structure WrittenTag where
  handle : Option String
  suffix : String
deriving DecidableEq, Repr

/-- What a directive says. -/
inductive Directive where
  | version (major : Nat)
  | tag (handle written : String)
  | other
deriving DecidableEq, Repr

/-- A unit of a document. -/
inductive Token where
  | directive (d : Directive)
  | documentStart
  | documentEnd
  | streamEnd
  | blockSequenceStart
  | blockMappingStart
  | blockEnd
  | flowSequenceStart
  | flowSequenceEnd
  | flowMappingStart
  | flowMappingEnd
  | flowEntry
  | blockEntry
  | key
  | value
  | alias (name : String)
  | anchor (name : String)
  | tag (t : WrittenTag)
  | scalar (text : String) (plain : Bool)
deriving DecidableEq, Repr

/-- How a token is named. -/
def Token.label : Token → String
  | .directive _ => "<directive>"
  | .documentStart => "<document start>"
  | .documentEnd => "<document end>"
  | .streamEnd => "<stream end>"
  | .blockSequenceStart => "<block sequence start>"
  | .blockMappingStart => "<block mapping start>"
  | .blockEnd => "<block end>"
  | .flowSequenceStart => "["
  | .flowSequenceEnd => "]"
  | .flowMappingStart => "\x7b"
  | .flowMappingEnd => "\x7d"
  | .flowEntry => ","
  | .blockEntry => "-"
  | .key => "?"
  | .value => ":"
  | .alias _ => "<alias>"
  | .anchor _ => "<anchor>"
  | .tag _ => "<tag>"
  | .scalar _ _ => "<scalar>"

/-- A token with the places of its beginning and its end. -/
structure PlacedToken where
  token : Token
  start : Mark
  stop : Mark
deriving DecidableEq, Repr

/-- The failure of a text that is no token. -/
def noToken {α : Type} (p : Position) (problem : String) : Except ReadError α :=
  .error (.document { fault := .scanner, problem, mark := some p.mark })

/-- The failure of a text that is no token inside something that has begun. -/
def noTokenIn {α : Type} (activity : String) (start : Mark) (p : Position) (problem : String) :
    Except ReadError α :=
  .error (.document
    { fault := .scanner, context := some (activity, some start), problem, mark := some p.mark })

end SecretScan.Yaml

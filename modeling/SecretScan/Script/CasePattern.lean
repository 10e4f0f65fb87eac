import SecretScan.Script.Expression
import SecretScan.Script.Number

/-!
# Case patterns of a script

The patterns that a value is compared with, case by case. As with expressions, a rule
asks for other rules through its argument `self`, and `CasePattern.read` closes the
circle with fuel.
-/

namespace SecretScan.Script.CasePattern

/-- The name that matches everything and is given to nothing. -/
def wildcard : String := "_"

/-- The rules. -/
inductive Goal where
  /-- Alternatives, perhaps with a name for the value. -/
  | pattern
  /-- A pattern, or a name behind a star. -/
  | starred
  | alternatives
  | closed
  /-- Patterns with commas between them, up to one of some signs. -/
  | items (close : List String)
  /-- The entries of a mapping, and the closing brace. -/
  | entries
  /-- The arguments of a class, and the closing parenthesis; once there was one with a
  name, all have one. -/
  | arguments (keyword : Bool)

/-- A rule: reads tokens and gives back the rest. -/
abbrev Rule := List Lexeme → Option (List Lexeme)

/-- Reads a name that the value is given. -/
def capture (ts : List Lexeme) : Option (List Lexeme) := do
  let (s, ts) ← eatName ts
  if s = wildcard || isAtAny [".", "(", "="] ts then none else some ts

/-- Reads a number. -/
def eatNumber : List Lexeme → Option (Bool × List Lexeme)
  | ⟨.number s, _⟩ :: ts => some (Number.isImaginary s.toList, ts)
  | _ => none

/-- Reads a number, perhaps with a sign, and perhaps with an imaginary part. -/
def number (ts : List Lexeme) : Option (List Lexeme) := do
  let (imaginary, ts) ← eatNumber ((eat "-" ts).getD ts)
  if isAtAny ["+", "-"] ts then
    let (unit, ts) ← eatNumber (ts.drop 1)
    if imaginary || !unit then none else some ts
  else some ts

/-- Reads a literal. -/
def literal (ts : List Lexeme) : Option (List Lexeme) :=
  match ts with
  | ⟨.text _, _⟩ :: _ => (Expression.texts ts).map (·.2)
  | _ => if isAtAny ["None", "True", "False"] ts then some (ts.drop 1) else number ts

/-- What follows the names of parts behind a name: how many there were, and the rest. -/
def parts : List Lexeme → Nat × List Lexeme
  | ⟨.sign ".", _⟩ :: ⟨.name _, _⟩ :: ts =>
    let (n, ts) := parts ts
    (n + 1, ts)
  | ts => (0, ts)

/-- The name that an argument is given by: whether there is one, and the rest. -/
def argumentName : List Lexeme → Bool × List Lexeme
  | ⟨.name _, _⟩ :: ⟨.sign "=", _⟩ :: ts => (true, ts)
  | ts => (false, ts)

section Rules

variable (self : Goal → Rule)

/-- Alternatives, and a name for the value. -/
def pattern : Rule := fun ts => do
  let ts ← self .alternatives ts
  match eat "as" ts with
  | some ts => capture ts
  | none => some ts

/-- A pattern, or a name behind a star. -/
def starred : Rule := fun ts =>
  match eat "*" ts with
  | some ts =>
    match eatName ts with
    | some (s, rest) => if s = wildcard then some rest else capture ts
    | none => none
  | none => self .pattern ts

/-- Patterns one of which has to fit. -/
def alternatives : Rule := fun ts => do
  let ts ← self .closed ts
  match eat "|" ts with
  | some ts => self .alternatives ts
  | none => some ts

/-- Patterns with commas between them, up to one of some signs. -/
def items (close : List String) : Rule := fun ts =>
  if isAtAny close ts then some ts
  else do
    let ts ← self .starred ts
    match eat "," ts with
    | some ts => self (.items close) ts
    | none => some ts

/-- A pattern, or a sequence of patterns, between parentheses. -/
def parenthesized : Rule := fun ts =>
  if isAt ")" ts then some (ts.drop 1)
  else do
    let rest ← self .starred ts
    match eat "," rest with
    | some rest => eat ")" (← self (.items [")"]) rest)
    | none => if isAt "*" ts then none else eat ")" rest

/-- The key of an entry. -/
def key (ts : List Lexeme) : Option (List Lexeme) :=
  match eatName ts with
  | some (_, ts) =>
    let (n, ts) := parts ts
    if n = 0 then none else some ts
  | none => literal ts

/-- The entries of a mapping. -/
def entries : Rule := fun ts =>
  if isAt "\x7d" ts then some (ts.drop 1)
  else
    match eat "**" ts with
    | some ts => do
      let ts ← capture ts
      eat "\x7d" ((eat "," ts).getD ts)
    | none => do
      let ts ← eat ":" (← key ts)
      let ts ← self .pattern ts
      match eat "," ts with
      | some ts => self .entries ts
      | none => eat "\x7d" ts

/-- The arguments of a class. -/
def arguments (keyword : Bool) : Rule := fun ts =>
  if isAt ")" ts then some (ts.drop 1)
  else do
    let (isNamed, ts) := argumentName ts
    if keyword && !isNamed then none
    let ts ← self .pattern ts
    match eat "," ts with
    | some ts => self (.arguments isNamed) ts
    | none => eat ")" ts

/-- A pattern that begins with a name. -/
def ofName : Rule := fun ts => do
  let (s, rest) ← eatName ts
  if s = wildcard then some rest
  else
    let (n, rest) := parts rest
    match eat "(" rest with
    | some rest => self (.arguments false) rest
    | none => if isAtAny [".", "="] rest then none else if n = 0 then capture ts else some rest

/-- A pattern without alternatives. -/
def closed : Rule := fun ts =>
  match eat "(" ts, eat "[" ts, eat "\x7b" ts with
  | some ts, _, _ => parenthesized self ts
  | _, some ts, _ => do eat "]" (← self (.items ["]"]) ts)
  | _, _, some ts => self .entries ts
  | none, none, none => if (eatName ts).isSome then ofName self ts else literal ts

/-- The rule for a goal. -/
def rule : Goal → Rule
  | .pattern => pattern self
  | .starred => starred self
  | .alternatives => alternatives self
  | .closed => closed self
  | .items close => items self close
  | .entries => entries self
  | .arguments keyword => arguments self keyword

end Rules

/-- The rules, each asking for others at most so deep. -/
def run : Nat → Goal → Rule
  | 0, _ => fun _ => none
  | fuel + 1, goal => rule (run fuel) goal

/-- Reads the pattern of a case: one pattern, or several with commas between them. -/
def read : Rule := fun ts => do
  let self := run (8 * (lineLength ts + 1))
  let rest ← self .starred ts
  match eat "," rest with
  | some rest => self (.items [":", "if"]) rest
  | none => if isAt "*" ts then none else some rest

end SecretScan.Script.CasePattern

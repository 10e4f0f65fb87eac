import SecretScan.Script.CasePattern
import SecretScan.Text.Identifier

/-!
# Statements of a script

A simple statement stands on one line, perhaps with others; a compound statement has
blocks of statements in it. Of a statement it is remembered whether it is a text, which
makes it the description of the script if it comes first, and what it imports.
-/

namespace SecretScan.Script

/-- A module that is imported, and the name that it goes by if it has another one. -/
structure ImportedModule where
  /-- The names on the way to the module. -/
  path : List String
  alternative : Option String
deriving DecidableEq, Repr

/-- What is remembered of a statement. -/
inductive StatementKind where
  /-- A text without fields. -/
  | text
  | imports (modules : List ImportedModule)
  /-- Names are imported from a module. -/
  | importsFrom (path : List String)
  | other
deriving DecidableEq, Repr

/-- A statement: what is remembered of it, its tokens, and the line on which it ends. -/
structure Statement where
  kind : StatementKind
  tokens : List Token
  lastLine : Nat
deriving DecidableEq, Repr

namespace Statement

/-- Makes a statement of what was read. -/
def ofTokens (kind : StatementKind) (ts rest : List Lexeme) : Statement :=
  let own := ts.take (ts.length - rest.length)
  ⟨kind, own.map (·.token), (own.getLast?.map (·.line)).getD 0⟩

/-- Reads an expression of some kind and forgets its shape. -/
def skip (goal : Expression.Goal) (ts : List Lexeme) : Option (List Lexeme) :=
  (Expression.read goal ts).map (·.2)

/-- Reads a layout token. -/
def eatLayout (t : Token) : List Lexeme → Option (List Lexeme)
  | ⟨u, _⟩ :: rest => if u = t then some rest else none
  | [] => none

/-- The name that a spelling stands for. -/
def plainName (spelling : String) : String :=
  (Text.plainName spelling.toList).getD spelling

/-! ## Imports -/

/-- The rest of a path to a module. -/
def morePath : List Lexeme → List String × List Lexeme
  | ⟨.sign ".", _⟩ :: ⟨.name s, _⟩ :: ts =>
    let (names, ts) := morePath ts
    (plainName s :: names, ts)
  | ts => ([], ts)

/-- The path to a module. -/
def path (ts : List Lexeme) : Option (List String × List Lexeme) := do
  let (s, ts) ← eatName ts
  let (names, ts) := morePath ts
  some (plainName s :: names, ts)

/-- The other name that something imported goes by. -/
def alternative (ts : List Lexeme) : Option (Option String × List Lexeme) :=
  match eat "as" ts with
  | some ts => (eatName ts).map fun (s, ts) => (some (plainName s), ts)
  | none => some (none, ts)

/-- Modules with commas between them. -/
def modules : Nat → List Lexeme → Option (List ImportedModule × List Lexeme)
  | 0, _ => none
  | fuel + 1, ts => do
    let (path, ts) ← path ts
    let (alternative, ts) ← alternative ts
    match eat "," ts with
    | some ts =>
      let (rest, ts) ← modules fuel ts
      some (⟨path, alternative⟩ :: rest, ts)
    | none => some ([⟨path, alternative⟩], ts)

/-- Imported names with commas between them; between parentheses a comma may end them. -/
def importedNames (closed : Bool) : Nat → List Lexeme → Option (List Lexeme)
  | 0, _ => none
  | fuel + 1, ts => do
    let (_, ts) ← eatName ts
    let (_, ts) ← alternative ts
    match eat "," ts with
    | some ts =>
      if closed && isAt ")" ts then some ts else importedNames closed fuel ts
    | none => some ts

/-- The names that are imported from a module. -/
def imported (ts : List Lexeme) : Option (List Lexeme) :=
  match eat "*" ts, eat "(" ts with
  | some ts, _ => some ts
  | none, some ts => do eat ")" (← importedNames true (lineLength ts) ts)
  | none, none => importedNames false (lineLength ts) ts

/-- Reads the dots before the path to a module. -/
def dots : List Lexeme → List Lexeme
  | ⟨.sign ".", _⟩ :: ts => dots ts
  | ⟨.sign "...", _⟩ :: ts => dots ts
  | ts => ts

/-- What comes after `from`. -/
def importFrom (ts : List Lexeme) : Option (StatementKind × List Lexeme) := do
  let after := dots ts
  let (names, rest) ←
    if after.length < ts.length && isAt "import" after then some ([], after) else path after
  let rest ← imported (← eat "import" rest)
  some (.importsFrom names, rest)

/-! ## Simple statements -/

/-- The values that are assigned, and the further targets between them. -/
def values : Nat → List Lexeme → Option (List Lexeme)
  | 0, _ => none
  | fuel + 1, ts =>
    if isAt "yield" ts then skip .yield ts
    else do
      let (s, ts) ← Expression.read .stars ts
      match eat "=" ts with
      | some ts => if s.isAssignable then values fuel ts else none
      | none => some ts

/-- A single value, which may be handed out. -/
def value (ts : List Lexeme) : Option (List Lexeme) :=
  skip (if isAt "yield" ts then .yield else .stars) ts

/-- The operators that change a value in its place. -/
def changingSigns : List String :=
  ["+=", "-=", "*=", "@=", "/=", "%=", "&=", "|=", "^=", "<<=", ">>=", "**=", "//="]

/-- An expression by itself, or one that a value is assigned to. -/
def expressionOrAssignment (ts : List Lexeme) : Option (StatementKind × List Lexeme) := do
  let (s, ts) ← Expression.read .stars ts
  match eat ":" ts, eat "=" ts with
  | some ts, _ =>
    if !s.isSingleTarget then none
    let ts ← skip .expression ts
    match eat "=" ts with
    | some ts => some (.other, ← value ts)
    | none => some (.other, ts)
  | none, some ts => if s.isAssignable then some (.other, ← values (lineLength ts) ts) else none
  | none, none =>
    if isAtAny changingSigns ts then
      if s.isSingleTarget then some (.other, ← value (ts.drop 1)) else none
    else some (if s.isText then .text else .other, ts)

/-- Names with commas between them. -/
def names : Nat → List Lexeme → Option (List Lexeme)
  | 0, _ => none
  | fuel + 1, ts => do
    let (_, ts) ← eatName ts
    match eat "," ts with
    | some ts => names fuel ts
    | none => some ts

/-- What is deleted, with commas between. -/
def deleted : Nat → List Lexeme → Option (List Lexeme)
  | 0, _ => none
  | fuel + 1, ts => do
    let (s, ts) ← Expression.read .primary ts
    if !s.isDeletable then none
    match eat "," ts with
    | some ts => if Expression.canStart ts then deleted fuel ts else some ts
    | none => some ts

/-- What comes after `raise`. -/
def raised (ts : List Lexeme) : Option (List Lexeme) :=
  if !Expression.canStart ts then some ts
  else do
    let ts ← skip .expression ts
    match eat "from" ts with
    | some ts => skip .expression ts
    | none => some ts

/-- What comes after `assert`. -/
def asserted (ts : List Lexeme) : Option (List Lexeme) := do
  let ts ← skip .expression ts
  match eat "," ts with
  | some ts => skip .expression ts
  | none => some ts

/-- A simple statement. -/
def simple (ts : List Lexeme) : Option (StatementKind × List Lexeme) :=
  let other := fun (rest : Option (List Lexeme)) => rest.map fun rest => (StatementKind.other, rest)
  match ts with
  | ⟨.sign "return", _⟩ :: ts =>
    other (if Expression.canStart ts || isAt "*" ts then skip .stars ts else some ts)
  | ⟨.sign "raise", _⟩ :: ts => other (raised ts)
  | ⟨.sign "pass", _⟩ :: ts => other (some ts)
  | ⟨.sign "break", _⟩ :: ts => other (some ts)
  | ⟨.sign "continue", _⟩ :: ts => other (some ts)
  | ⟨.sign "del", _⟩ :: ts => other (deleted (lineLength ts) ts)
  | ⟨.sign "assert", _⟩ :: ts => other (asserted ts)
  | ⟨.sign "global", _⟩ :: ts => other (names (lineLength ts) ts)
  | ⟨.sign "nonlocal", _⟩ :: ts => other (names (lineLength ts) ts)
  | ⟨.sign "import", _⟩ :: ts =>
    (modules (lineLength ts) ts).map fun (modules, ts) => (.imports modules, ts)
  | ⟨.sign "from", _⟩ :: ts => importFrom ts
  | ⟨.sign "yield", line⟩ :: ts => other (skip .yield (⟨.sign "yield", line⟩ :: ts))
  | ts => expressionOrAssignment ts

/-- The simple statements of a line. -/
def line : Nat → List Lexeme → Option (List Statement × List Lexeme)
  | 0, _ => none
  | fuel + 1, ts => do
    let (kind, rest) ← simple ts
    let first := ofTokens kind ts rest
    match eat ";" rest with
    | none => (eatLayout .newline rest).map fun rest => ([first], rest)
    | some rest =>
      match eatLayout .newline rest with
      | some rest => some ([first], rest)
      | none =>
        let (more, rest) ← line fuel rest
        some (first :: more, rest)

/-! ## Compound statements -/

/-- The parts of compound statements. -/
inductive Goal where
  | statement
  /-- A block behind a colon. -/
  | block
  /-- The statements of an indented block, up to its end. -/
  | suite
  /-- The further branches of a choice. -/
  | branches
  /-- The handlers of failures, all with a star or all without. -/
  | handlers (star : Bool)
  | cases

/-- A rule: reads tokens and gives back the rest. -/
abbrev Rule := List Lexeme → Option (List Lexeme)

/-- Something between `with` and a block: a manager, and what it is assigned to. -/
def manager (ts : List Lexeme) : Option (List Lexeme) := do
  let ts ← skip .expression ts
  match eat "as" ts with
  | none => some ts
  | some ts =>
    let (s, ts) ← Expression.read .primary ((eat "*" ts).getD ts)
    if s.isTarget && isAtAny [",", ")", ":"] ts then some ts else none

/-- Managers with commas between them; between parentheses a comma may end them. -/
def managers (closed : Bool) : Nat → List Lexeme → Option (List Lexeme)
  | 0, _ => none
  | fuel + 1, ts => do
    let ts ← manager ts
    match eat "," ts with
    | some ts => if closed && isAt ")" ts then some ts else managers closed fuel ts
    | none => some ts

/-- The managers between parentheses, and the colon. -/
def closedManagers (ts : List Lexeme) : Option (List Lexeme) := do
  let ts ← eat "(" ts
  let ts ← managers true (lineLength ts) ts
  eat ":" (← eat ")" ts)

/-- What the cases are compared with, and the end of its line. -/
def subject (ts : List Lexeme) : Option (List Lexeme) := do
  let (s, ts) ← Expression.read .starNamed ts
  let ts ←
    match eat "," ts with
    | some ts => skip (.more true) ts
    | none => if s.isStarred then none else some ts
  eatLayout .newline (← eat ":" ts)

section Rules

variable (self : Goal → Rule)

/-- A colon and a block. -/
def body : Rule := fun ts => do self .block (← eat ":" ts)

/-- The block for all other cases, if there is one. -/
def otherwise : Rule := fun ts =>
  match eat "else" ts with
  | some ts => body self ts
  | none => some ts

/-- The block that comes in any case, if there is one. -/
def finally? : Rule := fun ts =>
  match eat "finally" ts with
  | some ts => body self ts
  | none => some ts

/-- The further branches of a choice. -/
def branches : Rule := fun ts =>
  match eat "elif" ts with
  | some ts => do self .branches (← body self (← skip .named ts))
  | none => otherwise self ts

/-- A handler of failures, and more of them. -/
def handlers (star : Bool) : Rule := fun ts => do
  let ts ← eat "except" ts
  let ts ←
    if star then skip .expression (← eat "*" ts)
    else if isAt ":" ts then some ts
    else skip .expression ts
  let ts ←
    match eat "as" ts with
    | some ts => (eatName ts).map (·.2)
    | none => some ts
  let ts ← body self ts
  if isAt "except" ts then self (.handlers star) ts else some ts

/-- What comes after `try`. -/
def attempt : Rule := fun ts => do
  let ts ← body self ts
  match eat "except" ts with
  | some rest => finally? self (← otherwise self (← self (.handlers (isAt "*" rest)) ts))
  | none => if isAt "finally" ts then finally? self ts else none

/-- What comes after `def`. -/
def function : Rule := fun ts => do
  let (_, ts) ← eatName ts
  let ts ← skip (.parameters true (.before false false false)) (← eat "(" ts)
  let ts ← eat ")" ts
  let ts ←
    match eat "->" ts with
    | some ts => skip .expression ts
    | none => some ts
  body self ts

/-- What comes after `class`. -/
def classBody : Rule := fun ts => do
  let (_, ts) ← eatName ts
  let ts ←
    match eat "(" ts with
    | some ts => eat ")" (← skip (.arguments .positional) ts)
    | none => some ts
  body self ts

/-- What comes after `for`. -/
def loop : Rule := fun ts => do
  let ts ← eat "in" (← skip .targets ts)
  otherwise self (← body self (← skip .stars ts))

/-- What comes after `with`. -/
def managed : Rule := fun ts =>
  match closedManagers ts with
  | some ts => self .block ts
  | none => do body self (← managers false (lineLength ts) ts)

/-- A definition behind its decorators. -/
def decorated : Nat → Rule
  | 0, _ => none
  | fuel + 1, ts =>
    match ts with
    | ⟨.sign "@", _⟩ :: ts => do decorated fuel (← eatLayout .newline (← skip .named ts))
    | ⟨.sign "class", _⟩ :: ts => classBody self ts
    | ⟨.sign "async", _⟩ :: ts => do function self (← eat "def" ts)
    | ⟨.sign "def", _⟩ :: ts => function self ts
    | _ => none

/-- The signs that a compound statement starts with. -/
def compoundSigns : List String :=
  ["if", "while", "for", "with", "try", "def", "class", "@", "async"]

/-- A compound statement. -/
def compound : Rule
  | ⟨.sign "if", _⟩ :: ts => do self .branches (← body self (← skip .named ts))
  | ⟨.sign "while", _⟩ :: ts => do otherwise self (← body self (← skip .named ts))
  | ⟨.sign "for", _⟩ :: ts => loop self ts
  | ⟨.sign "with", _⟩ :: ts => managed self ts
  | ⟨.sign "try", _⟩ :: ts => attempt self ts
  | ⟨.sign "async", _⟩ :: ⟨.sign "for", _⟩ :: ts => loop self ts
  | ⟨.sign "async", _⟩ :: ⟨.sign "with", _⟩ :: ts => managed self ts
  | ts => decorated self ts.length ts

/-- The cases of a comparison, up to the end of their block. -/
def cases : Rule := fun ts => do
  let (s, ts) ← eatName ts
  if s ≠ "case" then none
  let ts ← CasePattern.read ts
  let ts ←
    match eat "if" ts with
    | some ts => skip .named ts
    | none => some ts
  let ts ← body self ts
  match eatLayout .dedent ts with
  | some ts => some ts
  | none => self .cases ts

/-- Where the cases begin, if a comparison of cases starts here. -/
def comparedCases? : List Lexeme → Option (List Lexeme)
  | ⟨.name "match", _⟩ :: ts => subject ts
  | _ => none

/-- The statements of a line, or one compound statement. -/
def statements (ts : List Lexeme) : Option (List Statement × List Lexeme) :=
  if isAtAny compoundSigns ts then
    (compound self ts).map fun rest => ([ofTokens .other ts rest], rest)
  else
    match comparedCases? ts with
    | some within => do
      let rest ← self .cases (← eatLayout .indent within)
      some ([ofTokens .other ts rest], rest)
    | none => line (lineLength ts) ts

/-- A block behind a colon: indented lines, or the rest of the line. -/
def block : Rule := fun ts =>
  match eatLayout .newline ts with
  | some ts => do self .suite (← eatLayout .indent ts)
  | none => (line (lineLength ts) ts).map (·.2)

/-- The statements of an indented block. -/
def suite : Rule := fun ts => do
  let ts ← self .statement ts
  match eatLayout .dedent ts with
  | some ts => some ts
  | none => self .suite ts

/-- The rule for a goal. -/
def rule : Goal → Rule
  | .statement => fun ts => (statements self ts).map (·.2)
  | .block => block self
  | .suite => suite self
  | .branches => branches self
  | .handlers star => handlers self star
  | .cases => cases self

end Rules

/-- The rules, each asking for others at most so deep. -/
def run : Nat → Goal → Rule
  | 0, _ => fun _ => none
  | fuel + 1, goal => rule (run fuel) goal

/-- The statements that tokens amount to. -/
def readAll : Nat → List Lexeme → Option (List Statement)
  | 0, _ => none
  | _, [] => some []
  | fuel + 1, ts => do
    let (first, rest) ← statements (run (4 * (ts.length + 1))) ts
    let more ← readAll fuel rest
    some (first ++ more)

end Statement

end SecretScan.Script

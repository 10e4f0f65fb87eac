import SecretScan.Script.Shape
import SecretScan.Script.Token

/-!
# Expressions of a script

The grammar of expressions, one function for each rule. A rule reads the tokens at the
start of a list and gives back the rest, or nothing if they do not fit. A rule that
needs another one asks for it through its argument `self`, so that no rule calls itself;
`Expression.read` closes the circle with fuel. The depth of the calls is bounded by the
number of tokens of the line, since every round through the rules reads at least one and
none reads the end of a line.

Operators are read from left to right without regard to how strongly they bind. That
makes a difference for the value of an expression but not for whether it is one.
-/

namespace SecretScan.Script

/-- Reads a sign. -/
def eat (s : String) : List Lexeme → Option (List Lexeme)
  | ⟨.sign t, _⟩ :: rest => if t = s then some rest else none
  | _ => none

/-- Whether the next token is a sign. -/
def isAt (s : String) (ts : List Lexeme) : Bool :=
  (eat s ts).isSome

/-- Whether the next token is one of some signs. -/
def isAtAny (signs : List String) : List Lexeme → Bool
  | ⟨.sign t, _⟩ :: _ => signs.contains t
  | _ => false

/-- Reads a name. -/
def eatName : List Lexeme → Option (String × List Lexeme)
  | ⟨.name s, _⟩ :: rest => some (s, rest)
  | _ => none

/-- The number of tokens up to the end of the line. -/
def lineLength (ts : List Lexeme) : Nat :=
  (ts.takeWhile (·.token != .newline)).length

namespace Expression

/-- How far the arguments of a call have got: a later kind may not be followed by an
earlier one. -/
inductive ArgumentStage where
  | positional
  | keyword
  | doubled
deriving DecidableEq, Repr

/-- How far the parameters of a function have got. -/
inductive ParameterStage where
  /-- Before the star: whether there was a parameter, one with a default, a slash. -/
  | before (any default slash : Bool)
  /-- After the star. -/
  | after
deriving DecidableEq, Repr

/-- The rules. -/
inductive Goal where
  /-- Expressions with commas between them, also behind stars. -/
  | stars
  /-- An expression, also behind a star. -/
  | star
  /-- An expression, also one that is given a name. -/
  | named
  /-- Both of these. -/
  | starNamed
  /-- More expressions behind a comma, which may be given names or not. -/
  | more (named : Bool)
  | expression
  | disjunction
  | comparison
  | operands
  | primary
  | trailers (base : Shape)
  | atom
  | yield
  /-- The clauses of a comprehension. -/
  | clauses
  | conditions
  /-- What the items of a sequence are assigned to, one after another. -/
  | targets
  /-- The arguments of a call, which may be a comprehension. -/
  | call
  | arguments (stage : ArgumentStage)
  | slices
  /-- What stands between braces, and the closing brace. -/
  | braced
  /-- More entries of a dictionary, and the closing brace. -/
  | entries
  /-- Parameters, with annotations up to a parenthesis, or without up to a colon. -/
  | parameters (annotated : Bool) (stage : ParameterStage)

/-- A rule: reads tokens and gives back the shape of what it read, and the rest. -/
abbrev Rule := List Lexeme → Option (Shape × List Lexeme)

/-- The signs that an expression can start with. -/
def startingSigns : List String :=
  ["(", "[", "\x7b", "-", "+", "~", "...", "not", "lambda", "await", "None", "True", "False"]

/-- Whether an expression can start with the next token. -/
def canStart : List Lexeme → Bool
  | ⟨.name _, _⟩ :: _ => true
  | ⟨.number _, _⟩ :: _ => true
  | ⟨.text _, _⟩ :: _ => true
  | ⟨.sign s, _⟩ :: _ => startingSigns.contains s
  | _ => false

/-- Whether a comprehension follows. -/
def atClauses (ts : List Lexeme) : Bool :=
  isAtAny ["for", "async"] ts

/-- The shape that is left when nothing about an expression matters. -/
def plain (ts : List Lexeme) : Option (Shape × List Lexeme) :=
  some (.other, ts)

section Rules

variable (self : Goal → Rule)

/-- Expressions with commas between them; one comma makes a tuple. -/
def stars : Rule := fun ts => do
  let (first, ts) ← self .star ts
  match eat "," ts with
  | none => some (first, ts)
  | some ts =>
    let (rest, ts) ← self (.more false) ts
    some (.tuple (first :: rest.parts), ts)

/-- An expression behind a star, or another rule. -/
def orStarred (goal : Goal) : Rule := fun ts =>
  match eat "*" ts with
  | some ts => do
    let (s, ts) ← self .operands ts
    some (.starred s, ts)
  | none => self goal ts

/-- An expression, which may be given a name. -/
def named : Rule
  | ⟨.name _, _⟩ :: ⟨.sign ":=", _⟩ :: ts => do
    let (_, ts) ← self .expression ts
    plain ts
  | ts => self .expression ts

/-- More expressions behind a comma, as many as there are. -/
def more (isNamed : Bool) : Rule := fun ts =>
  if canStart ts || isAt "*" ts then do
    let (s, ts) ← self (if isNamed then .starNamed else .star) ts
    match eat "," ts with
    | none => some (.tuple [s], ts)
    | some ts =>
      let (rest, ts) ← self (.more isNamed) ts
      some (.tuple (s :: rest.parts), ts)
  else some (.tuple [], ts)

/-- A function without a name, a choice between two expressions, or neither. -/
def expression : Rule := fun ts =>
  match eat "lambda" ts with
  | some ts => do
    let (_, ts) ← self (.parameters false (.before false false false)) ts
    let ts ← eat ":" ts
    let (_, ts) ← self .expression ts
    plain ts
  | none => do
    let (s, ts) ← self .disjunction ts
    match eat "if" ts with
    | none => some (s, ts)
    | some ts =>
      let (_, ts) ← self .disjunction ts
      let ts ← eat "else" ts
      let (_, ts) ← self .expression ts
      plain ts

/-- Comparisons that are negated and joined. -/
def disjunction : Rule := fun ts =>
  match eat "not" ts with
  | some ts => do
    let (_, ts) ← self .disjunction ts
    plain ts
  | none => do
    let (s, ts) ← self .comparison ts
    match (eat "and" ts).or (eat "or" ts) with
    | none => some (s, ts)
    | some ts =>
      let (_, ts) ← self .disjunction ts
      plain ts

/-- Reads a comparison sign, which may be two words. -/
def eatComparison : List Lexeme → Option (List Lexeme)
  | ⟨.sign "not", _⟩ :: ⟨.sign "in", _⟩ :: ts => some ts
  | ⟨.sign "is", _⟩ :: ⟨.sign "not", _⟩ :: ts => some ts
  | ⟨.sign s, _⟩ :: ts =>
    if ["==", "!=", "<=", "<", ">=", ">", "in", "is"].contains s then some ts else none
  | _ => none

/-- Operands that are compared. -/
def comparison : Rule := fun ts => do
  let (s, ts) ← self .operands ts
  match eatComparison ts with
  | none => some (s, ts)
  | some ts =>
    let (_, ts) ← self .comparison ts
    plain ts

/-- The operators between two operands. -/
def binarySigns : List String :=
  ["|", "^", "&", "<<", ">>", "+", "-", "*", "/", "//", "%", "@", "**"]

/-- Operands with operators before and between them. -/
def operands : Rule := fun ts =>
  if isAtAny ["+", "-", "~"] ts then do
    let (_, ts) ← self .operands (ts.drop 1)
    plain ts
  else do
    let (s, ts) ←
      match eat "await" ts with
      | some ts => do
        let (_, ts) ← self .primary ts
        plain ts
      | none => self .primary ts
    if isAtAny binarySigns ts then
      let (_, ts) ← self .operands (ts.drop 1)
      plain ts
    else some (s, ts)

/-- An atom with what is appended to it. -/
def primary : Rule := fun ts => do
  let (s, ts) ← self .atom ts
  self (.trailers s) ts

/-- Names of parts, calls and subscripts behind an expression. -/
def trailers (base : Shape) : Rule
  | ⟨.sign ".", _⟩ :: ⟨.name _, _⟩ :: ts => self (.trailers .member) ts
  | ⟨.sign "(", _⟩ :: ts => do
    let (_, ts) ← self .call ts
    let ts ← eat ")" ts
    self (.trailers .other) ts
  | ⟨.sign "[", _⟩ :: ts => do
    let (_, ts) ← self .slices ts
    let ts ← eat "]" ts
    self (.trailers .member) ts
  | ts => some (base, ts)

/-- Reads texts that stand next to each other. Texts of bytes and others do not mix. -/
def texts (ts : List Lexeme) : Option (Shape × List Lexeme) :=
  let literals := ts.map (·.token) |>.takeWhile (fun t => t matches .text _) |>.filterMap fun t =>
    match t with
    | .text l => some l
    | _ => none
  let rest := ts.drop literals.length
  if literals.all (·.bytes) then plain rest
  else if literals.any (·.bytes) then none
  else if literals.any (·.formatted) then plain rest
  else some (.text, rest)

/-- What stands between parentheses, and the closing one. -/
def parenthesized : Rule := fun ts =>
  if isAt ")" ts then some (.tuple [], ts.drop 1)
  else if isAt "yield" ts then do
    let (_, ts) ← self .yield ts
    let ts ← eat ")" ts
    some (.group .other, ts)
  else do
    let (s, ts) ← self .starNamed ts
    match eat "," ts with
    | some ts =>
      let (rest, ts) ← self (.more true) ts
      let ts ← eat ")" ts
      some (.tuple (s :: rest.parts), ts)
    | none =>
      if s.isStarred then none
      else if atClauses ts then
        let (_, ts) ← self .clauses ts
        let ts ← eat ")" ts
        plain ts
      else
        let ts ← eat ")" ts
        some (.group s, ts)

/-- What stands between square brackets, and the closing one. -/
def bracketed : Rule := fun ts =>
  if isAt "]" ts then some (.list [], ts.drop 1)
  else do
    let (s, ts) ← self .starNamed ts
    match eat "," ts with
    | some ts =>
      let (rest, ts) ← self (.more true) ts
      let ts ← eat "]" ts
      some (.list (s :: rest.parts), ts)
    | none =>
      if atClauses ts then
        if s.isStarred then none
        else
          let (_, ts) ← self .clauses ts
          let ts ← eat "]" ts
          plain ts
      else
        let ts ← eat "]" ts
        some (.list [s], ts)

/-- The end of a set whose first item has been read. -/
def setEnd (first : Shape) : Rule := fun ts =>
  if atClauses ts then
    if first.isStarred then none
    else do
      let (_, ts) ← self .clauses ts
      plain (← eat "\x7d" ts)
  else
    match eat "," ts with
    | some ts => do
      let (_, ts) ← self (.more true) ts
      plain (← eat "\x7d" ts)
    | none => do plain (← eat "\x7d" ts)

/-- A dictionary or a set behind its opening brace. -/
def braced : Rule
  | ⟨.sign "\x7d", _⟩ :: ts => plain ts
  | ⟨.sign "**", _⟩ :: ts => do
    let (_, ts) ← self .operands ts
    self .entries ts
  | ⟨.sign "*", _⟩ :: ts => do
    let (s, ts) ← self .operands ts
    setEnd self (.starred s) ts
  | ⟨.name n, line⟩ :: ⟨.sign ":=", line'⟩ :: ts => do
    let (s, ts) ← self .named (⟨.name n, line⟩ :: ⟨.sign ":=", line'⟩ :: ts)
    setEnd self s ts
  | ts => do
    let (s, ts) ← self .expression ts
    match eat ":" ts with
    | none => setEnd self s ts
    | some ts =>
      let (_, ts) ← self .expression ts
      if atClauses ts then
        let (_, ts) ← self .clauses ts
        plain (← eat "\x7d" ts)
      else self .entries ts

/-- More entries of a dictionary. -/
def entries : Rule := fun ts =>
  match eat "," ts with
  | none => do plain (← eat "\x7d" ts)
  | some ts =>
    match eat "\x7d" ts, eat "**" ts with
    | some ts, _ => plain ts
    | none, some ts => do
      let (_, ts) ← self .operands ts
      self .entries ts
    | none, none => do
      let (_, ts) ← self .expression ts
      let ts ← eat ":" ts
      let (_, ts) ← self .expression ts
      self .entries ts

/-- The parts that all expressions are made of. -/
def atom : Rule
  | ⟨.name _, _⟩ :: ts => some (.name, ts)
  | ⟨.number _, _⟩ :: ts => plain ts
  | ⟨.text l, line⟩ :: ts => texts (⟨.text l, line⟩ :: ts)
  | ⟨.sign "(", _⟩ :: ts => parenthesized self ts
  | ⟨.sign "[", _⟩ :: ts => bracketed self ts
  | ⟨.sign "\x7b", _⟩ :: ts => self .braced ts
  | ⟨.sign s, _⟩ :: ts => if ["None", "True", "False", "..."].contains s then plain ts else none
  | _ => none

/-- What a generator hands out. -/
def yield : Rule := fun ts => do
  let ts ← eat "yield" ts
  match eat "from" ts with
  | some ts =>
    let (_, ts) ← self .expression ts
    plain ts
  | none =>
    if canStart ts || isAt "*" ts then
      let (_, ts) ← self .stars ts
      plain ts
    else plain ts

/-- The conditions of a clause, and more clauses. -/
def conditions : Rule := fun ts =>
  match eat "if" ts with
  | none => if atClauses ts then self .clauses ts else plain ts
  | some ts => do
    let (_, ts) ← self .disjunction ts
    self .conditions ts

/-- The clauses of a comprehension. -/
def clauses : Rule := fun ts => do
  let ts ← eat "for" ((eat "async" ts).getD ts)
  let (_, ts) ← self .targets ts
  let ts ← eat "in" ts
  let (_, ts) ← self .disjunction ts
  self .conditions ts

/-- What the items of a sequence are assigned to. -/
def targets : Rule := fun ts => do
  let (s, ts) ← self .primary ((eat "*" ts).getD ts)
  if !s.isTarget then none
  else
    match eat "," ts with
    | some ts => if isAt "in" ts then plain ts else self .targets ts
    | none => plain ts

/-- One argument of a call, and how far the arguments have got with it. -/
def argument (stage : ArgumentStage) : List Lexeme → Option (ArgumentStage × List Lexeme)
  | ⟨.sign "**", _⟩ :: ts => do
    let (_, ts) ← self .expression ts
    some (.doubled, ts)
  | ⟨.sign "*", _⟩ :: ts => do
    if stage = .doubled then none
    let (_, ts) ← self .expression ts
    some (stage, ts)
  | ⟨.name _, _⟩ :: ⟨.sign "=", _⟩ :: ts => do
    let (_, ts) ← self .expression ts
    some (if stage = .doubled then .doubled else .keyword, ts)
  | ts => do
    if stage ≠ .positional then none
    let (_, ts) ← self .named ts
    some (.positional, ts)

/-- The arguments of a call, up to the closing parenthesis. -/
def arguments (stage : ArgumentStage) : Rule := fun ts =>
  if isAt ")" ts then plain ts
  else do
    let (stage, ts) ← argument self stage ts
    match eat "," ts with
    | some ts => self (.arguments stage) ts
    | none => if isAt ")" ts then plain ts else none

/-- Whether the next argument is one that only its place tells apart. -/
def isPositional : List Lexeme → Bool
  | ⟨.sign s, _⟩ :: _ => s != "*" && s != "**" && s != ")"
  | ⟨.name _, _⟩ :: ⟨.sign "=", _⟩ :: _ => false
  | _ => true

/-- The arguments of a call; a single one may be a comprehension. -/
def call : Rule := fun ts =>
  if isPositional ts then do
    let (_, ts) ← self .named ts
    if atClauses ts then
      let (_, ts) ← self .clauses ts
      plain ts
    else
      match eat "," ts with
      | some ts => self (.arguments .positional) ts
      | none => plain ts
  else self (.arguments .positional) ts

/-- An expression that may be left out before a sign of a subscript. -/
def bound (ts : List Lexeme) : Option (List Lexeme) :=
  if isAtAny [":", ",", "]"] ts then some ts else (self .expression ts).map (·.2)

/-- The bounds of a subscript behind the first colon. -/
def bounds (ts : List Lexeme) : Option (List Lexeme) := do
  let ts ← bound self ts
  match eat ":" ts with
  | some ts => bound self ts
  | none => some ts

/-- One subscript. -/
def slice : List Lexeme → Option (List Lexeme)
  | ⟨.sign "*", _⟩ :: ts => (self .expression ts).map (·.2)
  | ⟨.sign ":", _⟩ :: ts => bounds self ts
  | ⟨.name n, line⟩ :: ⟨.sign ":=", line'⟩ :: ts =>
    (self .named (⟨.name n, line⟩ :: ⟨.sign ":=", line'⟩ :: ts)).map (·.2)
  | ts => do
    let (_, ts) ← self .expression ts
    match eat ":" ts with
    | some ts => bounds self ts
    | none => some ts

/-- Subscripts, up to the closing bracket. -/
def slices : Rule := fun ts => do
  let ts ← slice self ts
  match eat "," ts with
  | some ts => if isAt "]" ts then plain ts else self .slices ts
  | none => plain ts

/-- The annotation of a parameter. -/
def annotation (annotated : Bool) (goal : Goal) (ts : List Lexeme) : Option (List Lexeme) :=
  if annotated && isAt ":" ts then (self goal (ts.drop 1)).map (·.2) else some ts

/-- The sign that ends a list of parameters. -/
def parametersEnd (annotated : Bool) : String :=
  if annotated then ")" else ":"

/-- The end of a parameter: a comma and what follows, or the end of all. -/
def parameterEnd (annotated : Bool) (stage : ParameterStage) : Rule := fun ts =>
  match eat "," ts with
  | some ts => self (.parameters annotated stage) ts
  | none => if isAt (parametersEnd annotated) ts then plain ts else none

/-- A parameter with its annotation and its default: whether it has one, and the rest. -/
def parameter (annotated : Bool) (ts : List Lexeme) : Option (Bool × List Lexeme) := do
  let (_, ts) ← eatName ts
  let ts ← annotation self annotated .expression ts
  match eat "=" ts with
  | some ts => (self .expression ts).map fun (_, ts) => (true, ts)
  | none => some (false, ts)

/-- The parameter that takes all further arguments, or the star in its place. -/
def starParameter (annotated : Bool) : Rule := fun ts =>
  match eat "," ts with
  | some ts =>
    if (eatName ts).isSome then self (.parameters annotated .after) ts else none
  | none => do
    let (_, ts) ← eatName ts
    let ts ← annotation self annotated .star ts
    parameterEnd self annotated .after ts

/-- The parameter that takes all further named arguments; it is the last. -/
def doubleStarParameter (annotated : Bool) : Rule := fun ts => do
  let (_, ts) ← eatName ts
  let ts ← annotation self annotated .expression ts
  let ts := (eat "," ts).getD ts
  if isAt (parametersEnd annotated) ts then plain ts else none

/-- Parameters, up to the sign that ends them. -/
def parameters (annotated : Bool) (stage : ParameterStage) : Rule := fun ts =>
  if isAt (parametersEnd annotated) ts then plain ts
  else
    match eat "**" ts, stage with
    | some ts, _ => doubleStarParameter self annotated ts
    | none, .before any default slash =>
      match eat "*" ts, eat "/" ts with
      | some ts, _ => starParameter self annotated ts
      | none, some ts =>
        if any && !slash then parameterEnd self annotated (.before true default true) ts else none
      | none, none => do
        let (hasDefault, ts) ← parameter self annotated ts
        if default && !hasDefault then none
        parameterEnd self annotated (.before true hasDefault slash) ts
    | none, .after => do
      let (_, ts) ← parameter self annotated ts
      parameterEnd self annotated .after ts

/-- The rule for a goal. -/
def rule : Goal → Rule
  | .stars => stars self
  | .star => orStarred self .expression
  | .named => named self
  | .starNamed => orStarred self .named
  | .more isNamed => more self isNamed
  | .expression => expression self
  | .disjunction => disjunction self
  | .comparison => comparison self
  | .operands => operands self
  | .primary => primary self
  | .trailers base => trailers self base
  | .atom => atom self
  | .yield => yield self
  | .clauses => clauses self
  | .conditions => conditions self
  | .targets => targets self
  | .call => call self
  | .arguments stage => arguments self stage
  | .slices => slices self
  | .braced => braced self
  | .entries => entries self
  | .parameters annotated stage => parameters self annotated stage

end Rules

/-- The rules, each asking for others at most so deep. -/
def run : Nat → Goal → Rule
  | 0, _ => fun _ => none
  | fuel + 1, goal => rule (run fuel) goal

/-- How many rules can be asked for between two tokens. -/
def depthPerToken : Nat := 16

/-- Reads what a goal asks for. -/
def read (goal : Goal) : Rule := fun ts =>
  run (depthPerToken * (lineLength ts + 1)) goal ts

end Expression

end SecretScan.Script

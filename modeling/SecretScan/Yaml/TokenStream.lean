import SecretScan.Yaml.Scalar

/-!
# From characters to tokens

A text that may turn out to be a key is recognised as one only when its colon is
met. Until then the token is held back, and when the colon comes the marks of a key,
and perhaps of a new block, are put in front of it. A text stops being a possible
key at the end of its line or after `keyReach` characters.

Tokens are handed out as soon as nothing can be put in front of them any more. So a
text that is no token is noticed late: all tokens before it that were settled have
been handed out, and `TokenStream` keeps them together with the failure.
-/

namespace SecretScan.Yaml

/-- A token that may turn out to begin a key. -/
structure PossibleKey where
  /-- The number of the token. -/
  number : Nat
  /-- Whether the block would make no sense if this were no key. -/
  required : Bool
  start : Mark
deriving DecidableEq, Repr

/-- How far a key may reach. -/
def keyReach : Nat := 1024

/-- The state of reading tokens. -/
structure Scanner where
  pos : Position
  /-- How many brackets are open. -/
  flow : Nat := 0
  /-- Tokens that are held back. -/
  queue : List PlacedToken := []
  /-- How many tokens have been handed out. -/
  taken : Nat := 0
  /-- The column of the innermost block. -/
  indent : Int := -1
  /-- The columns of the blocks around it. -/
  outer : List Int := []
  keyAllowed : Bool := true
  /-- The possible key of each depth of brackets. -/
  keys : List (Nat × PossibleKey) := []
  done : Bool := false
deriving Repr

namespace Scanner

/-- Adds a token that ends at a position, and moves there. -/
def pushTo (t : Token) (p : Position) (s : Scanner) : Scanner :=
  { s with queue := s.queue ++ [⟨t, s.pos.mark, p.mark⟩], pos := p }

/-- Adds a token without characters. -/
def push (t : Token) (s : Scanner) : Scanner := s.pushTo t s.pos

/-- Puts a token without characters in front of what may turn out to be a key. -/
def insertAt (k : PossibleKey) (t : Token) (s : Scanner) : Scanner :=
  let n := k.number - s.taken
  { s with queue := s.queue.take n ++ ⟨t, k.start, k.start⟩ :: s.queue.drop n }

/-- Whether a possible key is out of reach. -/
def isStale (p : Position) (k : PossibleKey) : Bool :=
  k.start.line != p.line || keyReach < p.index - k.start.index

/-- The failure of a possible key that has to be one and is not. -/
def noKey {α : Type} (k : PossibleKey) (p : Position) : Except ReadError α :=
  noTokenIn "while scanning a simple key" k.start p "could not find expected ':'"

/-- Drops the possible keys that are out of reach. -/
def dropStale (s : Scanner) : Except ReadError Scanner :=
  match s.keys.find? fun (_, k) => isStale s.pos k && k.required with
  | some (_, k) => noKey k s.pos
  | none => .ok { s with keys := s.keys.filter fun (_, k) => !isStale s.pos k }

/-- Drops the possible key of the current depth. -/
def dropKey (s : Scanner) : Except ReadError Scanner :=
  match s.keys.lookup s.flow with
  | some k =>
    if k.required then noKey k s.pos else .ok { s with keys := s.keys.filter (·.1 != s.flow) }
  | none => .ok s

/-- Notes that the next token may begin a key. -/
def saveKey (s : Scanner) : Except ReadError Scanner := do
  if s.keyAllowed then
    let required := s.flow == 0 && s.indent == (s.pos.column : Int)
    let s ← s.dropKey
    let key : PossibleKey := ⟨s.taken + s.queue.length, required, s.pos.mark⟩
    return { s with keys := (s.flow, key) :: s.keys }
  else return s

/-- Ends the blocks that begin beyond a column. -/
def unwind (column : Int) (s : Scanner) : Nat → Scanner
  | 0 => s
  | fuel + 1 =>
    if s.flow = 0 && column < s.indent then
      unwind column
        { s.push .blockEnd with indent := s.outer.headD (-1), outer := s.outer.drop 1 } fuel
    else s

/-- Ends the blocks that begin beyond a column, as many as there are. -/
def unwindTo (column : Int) (s : Scanner) : Scanner := s.unwind column (s.outer.length + 1)

/-- Begins a block at a column if it lies deeper than the innermost one. -/
def addIndent (column : Nat) (s : Scanner) : Bool × Scanner :=
  if s.indent < (column : Int) then
    (true, { s with outer := s.indent :: s.outer, indent := column })
  else (false, s)

/-- Moves past one character and adds a token. -/
def mark (t : Token) (s : Scanner) : Scanner := s.pushTo t s.pos.step

/-- Skips blanks, comments and line breaks. After a line break in a block a key may
begin. -/
def skipBlank (s : Scanner) : Nat → Scanner
  | 0 => s
  | fuel + 1 =>
    let p := s.pos.skipSpaces.skipComment
    if isBreak p.peek then
      skipBlank { s with pos := p.lineBreak.2, keyAllowed := s.keyAllowed || s.flow == 0 } fuel
    else { s with pos := p }

/-- Moves to the next token. -/
def toNextToken (s : Scanner) : Scanner :=
  let s :=
    if s.pos.index = 0 && s.pos.peek == byteOrderMark then { s with pos := s.pos.step } else s
  s.skipBlank s.pos.budget

/-- The end of the document stream. -/
def fetchStreamEnd (s : Scanner) : Except ReadError Scanner := do
  let s ← (s.unwindTo (-1)).dropKey
  return { s.push .streamEnd with keyAllowed := false, keys := [], done := true }

/-- A directive. -/
def fetchDirective (s : Scanner) : Except ReadError Scanner := do
  let s ← (s.unwindTo (-1)).dropKey
  let (d, pos) ← Token.writtenDirective s.pos
  return { s.pushTo (.directive d) pos with keyAllowed := false }

/-- A mark between documents. -/
def fetchSeparator (t : Token) (s : Scanner) : Except ReadError Scanner := do
  let s ← (s.unwindTo (-1)).dropKey
  return { s.pushTo t (s.pos.advance 3) with keyAllowed := false }

/-- A bracket that opens. -/
def fetchOpening (t : Token) (s : Scanner) : Except ReadError Scanner := do
  let s ← s.saveKey
  return { s.mark t with flow := s.flow + 1, keyAllowed := true }

/-- A bracket that closes. -/
def fetchClosing (t : Token) (s : Scanner) : Except ReadError Scanner := do
  let s ← s.dropKey
  return { s.mark t with flow := s.flow - 1, keyAllowed := false }

/-- A comma. -/
def fetchFlowEntry (s : Scanner) : Except ReadError Scanner := do
  let s ← s.dropKey
  return { s.mark .flowEntry with keyAllowed := true }

/-- Begins a block at the current column if it lies deeper than the innermost one. -/
def beginBlock (t : Token) (s : Scanner) : Scanner :=
  let (added, s) := s.addIndent s.pos.column
  if added then s.push t else s

/-- The failure of a sign that may not stand where it does. -/
def notHere {α : Type} (what : String) (s : Scanner) : Except ReadError α :=
  noToken s.pos (what ++ " are not allowed here")

/-- A hyphen in front of an entry. -/
def fetchBlockEntry (s : Scanner) : Except ReadError Scanner := do
  if s.flow = 0 && !s.keyAllowed then s.notHere "sequence entries"
  else
    let s := if s.flow = 0 then s.beginBlock .blockSequenceStart else s
    let s ← s.dropKey
    return { s.mark .blockEntry with keyAllowed := true }

/-- A question mark in front of a key. -/
def fetchKey (s : Scanner) : Except ReadError Scanner := do
  if s.flow = 0 && !s.keyAllowed then s.notHere "mapping keys"
  else
    let s := if s.flow = 0 then s.beginBlock .blockMappingStart else s
    let s ← s.dropKey
    return { s.mark .key with keyAllowed := s.flow == 0 }

/-- A colon in front of a value. It settles that the possible key is a key. -/
def fetchValue (s : Scanner) : Except ReadError Scanner := do
  match s.keys.lookup s.flow with
  | some k =>
    let s := { s with keys := s.keys.filter (·.1 != s.flow) }
    let s := s.insertAt k .key
    let (added, s) := if s.flow = 0 then s.addIndent k.start.column else (false, s)
    let s := if added then s.insertAt k .blockMappingStart else s
    return { s.mark .value with keyAllowed := false }
  | none =>
    if s.flow = 0 && !s.keyAllowed then s.notHere "mapping values"
    else
      let s := if s.flow = 0 then s.beginBlock .blockMappingStart else s
      return { s.mark .value with keyAllowed := s.flow == 0 }

/-- An alias, an anchor or a tag, each of which may begin a key. -/
def fetchProperty (read : Position → Except ReadError (Token × Position)) (s : Scanner) :
    Except ReadError Scanner := do
  let s ← s.saveKey
  let (t, pos) ← read s.pos
  return { s.pushTo t pos with keyAllowed := false }

/-- A block scalar. -/
def fetchBlockScalar (folded : Bool) (s : Scanner) : Except ReadError Scanner := do
  let s ← s.dropKey
  let (text, pos) ← Scalar.block folded s.indent s.pos
  return { s.pushTo (.scalar text false) pos with keyAllowed := true }

/-- A quoted scalar. -/
def fetchQuoted (double : Bool) (s : Scanner) : Except ReadError Scanner :=
  s.fetchProperty fun p => do
    let (text, pos) ← Scalar.quoted double p
    return (.scalar text false, pos)

/-- A plain scalar. -/
def fetchPlain (s : Scanner) : Except ReadError Scanner := do
  let s ← s.saveKey
  let (text, keyMayFollow, pos) := Scalar.plain (s.flow != 0) (s.indent + 1) s.pos
  return { s.pushTo (.scalar text true) pos with keyAllowed := keyMayFollow.getD false }

/-- Whether a plain scalar may begin here. -/
def beginsPlain (s : Scanner) : Bool :=
  let c := s.pos.peek
  !(isGap c || "-?:,[]\x7b\x7d#&*!|>'\"%@\x60".toList.contains c) ||
    (!isGap (s.pos.peekAt 1) && (c == '-' || (s.flow == 0 && (c == '?' || c == ':'))))

/-- The tokens at the next place where there are some. -/
def fetch (s : Scanner) : Except ReadError Scanner := do
  let s ← s.toNextToken.dropStale
  let s := s.unwindTo s.pos.column
  let p := s.pos
  let c := p.peek
  let gapFollows := isGap (p.peekAt 1)
  if p.atEnd then s.fetchStreamEnd
  else if c == '%' && p.column == 0 then s.fetchDirective
  else if p.column == 0 && p.isTriple '-' then s.fetchSeparator .documentStart
  else if p.column == 0 && p.isTriple '.' then s.fetchSeparator .documentEnd
  else if c == '[' then s.fetchOpening .flowSequenceStart
  else if c == '\x7b' then s.fetchOpening .flowMappingStart
  else if c == ']' then s.fetchClosing .flowSequenceEnd
  else if c == '\x7d' then s.fetchClosing .flowMappingEnd
  else if c == ',' then s.fetchFlowEntry
  else if c == '-' && gapFollows then s.fetchBlockEntry
  else if c == '?' && (s.flow != 0 || gapFollows) then s.fetchKey
  else if c == ':' && (s.flow != 0 || gapFollows) then s.fetchValue
  else if c == '*' then
    s.fetchProperty fun p => do
      let (name, pos) ← Token.anchorName "while scanning an alias" p
      return (.alias name, pos)
  else if c == '&' then
    s.fetchProperty fun p => do
      let (name, pos) ← Token.anchorName "while scanning an anchor" p
      return (.anchor name, pos)
  else if c == '!' then
    s.fetchProperty fun p => do
      let (t, pos) ← Token.writtenTag p
      return (.tag t, pos)
  else if c == '|' && s.flow == 0 then s.fetchBlockScalar false
  else if c == '>' && s.flow == 0 then s.fetchBlockScalar true
  else if c == '\'' then s.fetchQuoted false
  else if c == '"' then s.fetchQuoted true
  else if s.beginsPlain then s.fetchPlain
  else
    .error (.document
      { fault := .scanner, context := some ("while scanning for the next token", none)
        problem := "found character " ++ Complaint.named c ++ " that cannot start any token"
        mark := some p.mark })

/-- Whether the first token held back could still get something in front of it, after
dropping the possible keys that are out of reach. -/
def needsMore (s : Scanner) : Except ReadError (Bool × Scanner) := do
  if s.done then return (false, s)
  else if s.queue.isEmpty then return (true, s)
  else
    let s ← s.dropStale
    return (s.keys.any (fun (_, k) => k.number = s.taken), s)

end Scanner

/-- The tokens of a document stream, and the failure that ends them if one does. -/
structure TokenStream where
  tokens : List PlacedToken
  failure : Option ReadError
deriving Repr

namespace TokenStream

/-- Hands out tokens until the stream ends or fails. -/
def collect (s : Scanner) (handed : List PlacedToken) : Nat → TokenStream
  | 0 => ⟨handed.reverse, none⟩
  | fuel + 1 =>
    match s.needsMore with
    | .error e => ⟨handed.reverse, some e⟩
    | .ok (true, s) =>
      match s.fetch with
      | .error e => ⟨handed.reverse, some e⟩
      | .ok s => collect s handed fuel
    | .ok (false, s) =>
      match s.queue with
      | [] => ⟨handed.reverse, none⟩
      | t :: rest => collect { s with queue := rest, taken := s.taken + 1 } (t :: handed) fuel

/-- The tokens of a text. Every character leads to at most one fetch and, with the
blocks that begin and end, to at most six tokens. -/
def ofText (text : List Char) : TokenStream :=
  collect { pos := { rest := text } } [] (8 * text.length + 16)

end TokenStream

end SecretScan.Yaml

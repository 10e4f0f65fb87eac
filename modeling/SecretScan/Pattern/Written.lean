import SecretScan.Pattern.Reader
import SecretScan.Text.CharName

/-!
# Written patterns

The grammar of written patterns. Flags are lexical: a piece is turned into a
pattern under the settings that hold where it stands, and the only flags that
reach further are those at the very start.

Reading happens in two steps. `readBranches`, `readItems` and `readGroup` find
the structure; `Pattern.firstFault` then looks for the faults that only the
finished pattern shows. Every call consumes a piece or belongs to one that was
consumed, so a budget of two calls for each piece is never used up.
-/

namespace SecretScan

open ReadPattern

namespace PatternReader

/-- A hexadecimal digit. -/
def isHex (c : Char) : Bool :=
  c.isDigit || ('a' ≤ c && c ≤ 'f') || ('A' ≤ c && c ≤ 'F')

/-- An octal digit. -/
def isOctal (c : Char) : Bool :=
  '0' ≤ c && c ≤ '7'

/-- The value of digits of a base. -/
def valueIn (base : Nat) (digits : List Char) : Nat :=
  Text.ofDigits base (digits.filterMap (Text.digitIn? base))

/-- The character classes that have an escape of their own. -/
def classEscape? (scope : Scope) : Char → Option Member
  | 'd' => some (.cls .digit scope false)
  | 'D' => some (.cls .digit scope true)
  | 's' => some (.cls .blank scope false)
  | 'S' => some (.cls .blank scope true)
  | 'w' => some (.cls .word scope false)
  | 'W' => some (.cls .word scope true)
  | _ => none

/-- The control characters that have an escape of their own. -/
def controlEscape? : Char → Option Nat
  | 'a' => some 0x07
  | 'b' => some 0x08
  | 'f' => some 0x0C
  | 'n' => some 0x0A
  | 'r' => some 0x0D
  | 't' => some 0x09
  | 'v' => some 0x0B
  | '\\' => some 0x5C
  | _ => none

/-- The text of an escape. -/
def escapeText (c : Char) (more : List Char) : String :=
  String.ofList ('\\' :: c :: more)

/-- An escape of exactly `n` hexadecimal digits. -/
def hexEscape (c : Char) (n : Nat) : ReadPattern Nat := do
  let digits ← takeWhile isHex n
  let text := escapeText c digits
  if digits.length ≠ n then fail (.incompleteEscape text)
  let value := valueIn 16 digits
  if 0x110000 ≤ value then fail (.badEscape text)
  return value

/-- A character given by its name. -/
def namedCharacter : ReadPattern Nat := do
  unless ← accept '{' do fail .missingBrace
  let name ← takeName '}' "character name"
  match Text.charNamed? name with
  | some n => return n
  | none => fail (.unknownCharacter name)

/-- The escapes for single characters that sets and sequences share. -/
def characterEscape (c : Char) : ReadPattern Nat := do
  match c with
  | 'x' => hexEscape c 2
  | 'u' => hexEscape c 4
  | 'U' => hexEscape c 8
  | 'N' => namedCharacter
  | _ =>
    if c.isAlphanum then fail (.badEscape (escapeText c [])) else return c.toNat

/-- An escape inside a set. -/
def setEscape (scope : Scope) (c : Char) : ReadPattern (Nat ⊕ Member) := do
  match controlEscape? c, classEscape? scope c with
  | some n, _ => return .inl n
  | none, some m => return .inr m
  | none, none =>
    if isOctal c then
      let digits := c :: (← takeWhile isOctal 2)
      let value := valueIn 8 digits
      if 0o377 < value then fail (.octalTooLarge (String.ofList ('\\' :: digits)))
      return .inl value
    else return .inl (← characterEscape c)

/-- An escape that begins with a digit other than zero: three octal digits, or the
number of a group. -/
def numberEscape (c : Char) : ReadPattern Item := do
  let digits ← do
    match ← peek with
    | some (.char d) => if d.isDigit then discard take; pure [c, d] else pure [c]
    | _ => pure [c]
  if digits.length = 2 && digits.all isOctal then
    match ← peek with
    | some (.char d) =>
      if isOctal d then
        discard take
        let value := valueIn 8 (digits ++ [d])
        if 0o377 < value then fail (.octalTooLarge (String.ofList ('\\' :: digits ++ [d])))
        return .test (.literal value)
    | _ => pure ()
  let index := valueIn 10 digits
  let s ← get
  if s.groupCount < index then fail (.noSuchGroup index)
  if (s.finished.lookup index).isNone then fail .openGroup
  checkLookBehind index
  return .again index

/-- An escape in a sequence. -/
def sequenceEscape (f : PatternFlags) (c : Char) : ReadPattern Item := do
  match c with
  | 'A' => return .anchor .textStart
  | 'Z' => return .anchor .textEnd
  | 'b' => return .anchor (.boundary f.scope false)
  | 'B' => return .anchor (.boundary f.scope true)
  | '0' => return .test (.literal (valueIn 8 (← takeWhile isOctal 2)))
  | _ =>
    match classEscape? f.scope c, controlEscape? c with
    | some m, _ => return .test (.set false [m])
    | none, some n => return .test (.literal n)
    | none, none =>
      if c.isDigit then numberEscape c
      else return .test (.literal (← characterEscape c))

/-- The member that a code point or a class is. -/
def memberOf : Nat ⊕ Member → List Member
  | .inl n => ((charOf? n).map Member.char).toList
  | .inr m => [m]

/-- One end of a range, or a member of its own. -/
def setPiece (f : PatternFlags) (piece : Piece) : ReadPattern (Nat ⊕ Member) :=
  match piece with
  | .escape c => setEscape f.scope c
  | .char c => return .inl c.toNat
  | .dangling => fail .danglingEscape

/-- The members of a set, up to its closing bracket. The first piece is a member
even if it is a closing bracket. -/
def readSet (f : PatternFlags) (read : List (Nat ⊕ Member)) (ranges : List Member) :
    Nat → ReadPattern (List (Nat ⊕ Member) × List Member)
  | 0 => fail .unterminatedSet
  | fuel + 1 => do
    match ← take with
    | none => fail .unterminatedSet
    | some piece =>
      if piece == .char ']' && !(read.isEmpty && ranges.isEmpty) then return (read, ranges)
      let first ← setPiece f piece
      if ← accept '-' then
        match ← take with
        | none => fail .unterminatedSet
        | some piece' =>
          if piece' == .char ']' then return (read ++ [first, .inl '-'.toNat], ranges)
          let last ← setPiece f piece'
          match first, last with
          | .inl lo, .inl hi =>
            if hi < lo then
              fail (.badRange (String.ofList piece.text) (String.ofList piece'.text))
            readSet f read (ranges ++ [.range lo hi]) fuel
          | _, _ => fail (.badRange (String.ofList piece.text) (String.ofList piece'.text))
      else readSet f (read ++ [first]) ranges fuel

/-- A bracketed set, read after its opening bracket. A set of one character is
that character. -/
def bracketed (f : PatternFlags) : ReadPattern RawTest := do
  let negated ← accept '^'
  let (read, ranges) ← readSet f [] [] ((← get).pieces.length + 1)
  match read.eraseDups, ranges with
  | [.inl n], [] => return if negated then .except n else .literal n
  | _, _ => return .set negated (read.flatMap memberOf ++ ranges)

/-- The greatest count that a repetition can hold. -/
def countLimit : Nat := 4294967295

/-- The bounds of a repetition in braces, read after the opening brace; none if
the brace is an ordinary character. -/
def bracedBounds : ReadPattern (Option (Nat × Option Nat)) := do
  let here := (← get).pieces
  if ← sees '}' then return none
  let lo ← takeWhile Char.isDigit here.length
  let hi ← if ← accept ',' then takeWhile Char.isDigit here.length else pure lo
  unless ← accept '}' do
    goTo here
    return none
  let least ← if lo.isEmpty then pure 0 else decimal lo
  if countLimit ≤ least then throw .countTooLarge
  if hi.isEmpty then return some (least, none)
  let most ← decimal hi
  if countLimit ≤ most then throw .countTooLarge
  if most < least then fail .boundsCrossed
  return some (least, some most)

/-- Applies a repetition to the last slot of a sequence, given in reverse. -/
def repeatLast (f : PatternFlags) (least : Nat) (most : Option Nat) (slots : List Slot) :
    ReadPattern (List Slot) := do
  let (body, rest) ←
    match slots with
    | [] => fail .nothingToRepeat
    | .item (.anchor _) :: _ => fail .nothingToRepeat
    | .item (.repetition _) :: _ => fail .repeatedRepeat
    | .item i :: rest => pure (i.toPattern f, rest)
    | .bare items :: rest => pure (Item.sequence f items, rest)
  let greed ←
    if ← accept '?' then pure Greed.lazy
    else do
      if ← accept '+' then pure Greed.possessive
      else pure Greed.greedy
  return .item (.repetition (.times greed least most body)) :: rest

/-- The letters that stand for flags. -/
def isFlag (c : Char) : Bool :=
  "iLmsxatu".toList.contains c

/-- The settings after turning flags on and off. Naming a scope replaces it. -/
def applyFlags (f : PatternFlags) (on off : List Char) : PatternFlags :=
  let set := fun (c : Char) (old : Bool) => (old || on.contains c) && !off.contains c
  { ignoreCase := set 'i' f.ignoreCase
    multiline := set 'm' f.multiline
    dotAll := set 's' f.dotAll
    verbose := set 'x' f.verbose
    scope := if on.contains 'a' then .ascii else if on.contains 'u' then .unicode else f.scope }

/-- What a list of flags is for. -/
inductive FlagGroup where
  /-- Flags for the whole pattern. -/
  | whole (on : List Char)
  /-- Flags for a group. -/
  | scoped (on off : List Char)
deriving Repr

/-- Flags that are turned off, up to the colon. -/
def flagsOff (off : List Char) (c : Char) : Nat → ReadPattern (List Char)
  | 0 => fail .missingColon
  | fuel + 1 => do
    if c == 'a' || c == 'u' || c == 'L' then fail .scopeOff
    let off := off ++ [c]
    match ← take with
    | none => fail .missingColon
    | some (.char ':') => return off
    | some (.char d) =>
      if isFlag d then flagsOff off d fuel
      else fail (if Text.isLetter d then .unknownFlag else .missingColon)
    | some _ => fail .missingColon

/-- Flags that are turned on, and the character that ends them. -/
def flagsOn (on : List Char) (c : Char) : Nat → ReadPattern (List Char × Char)
  | 0 => fail .flagsUnfinished
  | fuel + 1 => do
    if c == 'L' then fail .localeFlag
    let on := on ++ [c]
    if on.contains 'a' && on.contains 'u' && (c == 'a' || c == 'u') then fail .scopesInFlags
    match ← take with
    | none => fail .flagsUnfinished
    | some (.char d) =>
      if d == ')' || d == '-' || d == ':' then return (on, d)
      else if isFlag d then flagsOn on d fuel
      else fail (if Text.isLetter d then .unknownFlag else .flagsUnfinished)
    | some _ => fail .flagsUnfinished

/-- A list of flags, of which the first character has been taken. -/
def flagGroup (c : Char) : ReadPattern FlagGroup := do
  let fuel := (← get).pieces.length + 1
  let (on, stop) ← if c == '-' then pure ([], '-') else flagsOn [] c fuel
  if stop == ')' then
    modify fun s =>
      { s with
        sawAscii := s.sawAscii || on.contains 'a'
        sawUnicode := s.sawUnicode || on.contains 'u'
        template := s.template || on.contains 't' }
    return .whole on
  if on.contains 't' then fail .globalFlagOn
  if stop == ':' then return .scoped on []
  match ← take with
  | none => fail .missingFlag
  | some (.char d) =>
    unless isFlag d do fail (if Text.isLetter d then .unknownFlag else .missingFlag)
    let off ← flagsOff [] d fuel
    if off.contains 't' then fail .globalFlagOff
    if on.any off.contains then fail .flagOnAndOff
    return .scoped on off
  | some _ => fail .missingFlag

/-- Begins a group and gives its number. -/
def beginGroup (name : Option String) : ReadPattern Nat := do
  let s ← get
  let index := s.groupCount + 1
  match name with
  | none => set { s with groupCount := index }
  | some n =>
    match s.names.lookup n with
    | some before => fail (.groupNameTaken n index before)
    | none => set { s with groupCount := index, names := s.names ++ [(n, index)] }
  return index

/-- Skips a comment up to its closing parenthesis. -/
def skipComment : Nat → ReadPattern Unit
  | 0 => fail .unterminatedComment
  | fuel + 1 => do
    match ← take with
    | none => fail .unterminatedComment
    | some piece => if piece == .char ')' then return else skipComment fuel

/-- Skips the rest of a line. -/
def skipLine : Nat → ReadPattern Unit
  | 0 => return
  | fuel + 1 => do
    match ← take with
    | none => return
    | some piece => if piece == .char '\n' then return else skipLine fuel

/-- Insists on the parenthesis that closes a group. -/
def closing : ReadPattern Unit := do
  unless ← accept ')' do fail .unterminatedGroup

/-- The group that a condition asks about. -/
def askedGroup : ReadPattern Nat := do
  let name ← takeName ')' "group name"
  let index ←
    if Text.isName name.toList then
      match (← get).names.lookup name with
      | some index => pure index
      | none => fail (.unknownGroupName name)
    else
      match Text.readInteger 10 name.toList with
      | .ok (.ofNat 0) => fail .badGroupNumber
      | .ok (.ofNat n) =>
        if 1073741823 ≤ n then fail (.noSuchGroup n)
        modify fun s => { s with asked := if s.asked.contains n then s.asked else s.asked ++ [n] }
        pure n
      | _ => fail (.badGroupName name)
  checkLookBehind index
  return index

/-- A second reference to a named group. -/
def namedReference : ReadPattern Item := do
  let name ← takeName ')' "group name"
  checkName name
  let s ← get
  match s.names.lookup name with
  | none => fail (.unknownGroupName name)
  | some index =>
    if (s.finished.lookup index).isNone then fail .openGroup
    checkLookBehind index
    return .again index

/-- The start of a line or of the text, by the settings. -/
def startAnchor (f : PatternFlags) : Anchor :=
  if f.multiline then .lineStart else .textStart

/-- The end of a line or of the text, by the settings. -/
def endAnchor (f : PatternFlags) : Anchor :=
  if f.multiline then .lineEnd else .lastLineEnd

mutual

/-- Alternatives, up to the end or a closing parenthesis, as the items they amount
to, and the settings that hold after them. -/
def readBranches (f : PatternFlags) (nested first : Bool) (branches : List (List Item)) :
    Nat → ReadPattern (List Item × PatternFlags)
  | 0 => fail .unexpectedEnd
  | fuel + 1 => do
    let (slots, f) ← readItems f (!nested && first) [] fuel
    let branches := branches ++ [Slot.items slots.reverse]
    if ← accept '|' then readBranches f nested false branches fuel
    else return (Item.alternation f branches, f)

/-- A sequence, up to a bar, a closing parenthesis or the end. `slots` holds what
has been read, last first; `first` says that flags for the whole may come. -/
def readItems (f : PatternFlags) (first : Bool) (slots : List Slot) :
    Nat → ReadPattern (List Slot × PatternFlags)
  | 0 => fail .unexpectedEnd
  | fuel + 1 => do
    match ← peek with
    | none => return (slots, f)
    | some piece =>
      if piece == .char '|' || piece == .char ')' then return (slots, f)
      discard take
      match piece with
      | .dangling => fail .danglingEscape
      | .escape c => readItems f first (.item (← sequenceEscape f c) :: slots) fuel
      | .char c =>
        if f.verbose && Text.isAsciiBlank c then readItems f first slots fuel
        else if f.verbose && c == '#' then
          skipLine ((← get).pieces.length + 1)
          readItems f first slots fuel
        else
          match c with
          | '[' => readItems f first (.item (.test (← bracketed f)) :: slots) fuel
          | '.' => readItems f first (.item (.test .dot) :: slots) fuel
          | '^' => readItems f first (.item (.anchor (startAnchor f)) :: slots) fuel
          | '$' => readItems f first (.item (.anchor (endAnchor f)) :: slots) fuel
          | '?' => readItems f first (← repeatLast f 0 (some 1) slots) fuel
          | '*' => readItems f first (← repeatLast f 0 none slots) fuel
          | '+' => readItems f first (← repeatLast f 1 none slots) fuel
          | '{' =>
            match ← bracedBounds with
            | none => readItems f first (.item (.test (.literal c.toNat)) :: slots) fuel
            | some (least, most) => readItems f first (← repeatLast f least most slots) fuel
          | '(' =>
            let (more, f) ← readGroup f (first && slots.isEmpty) fuel
            readItems f first (more ++ slots) fuel
          | _ => readItems f first (.item (.test (.literal c.toNat)) :: slots) fuel

/-- A group, read after its opening parenthesis: the slots that it adds, and the
settings that hold after it. -/
def readGroup (f : PatternFlags) (first : Bool) :
    Nat → ReadPattern (List Slot × PatternFlags)
  | 0 => fail .unexpectedEnd
  | fuel + 1 => do
    let capture := fun (name : Option String) => do
      let index ← beginGroup name
      let (items, _) ← readBranches f true false [] fuel
      closing
      let body := Item.sequence f items
      modify fun s => { s with finished := (index, body.width s.finished) :: s.finished }
      return ([Slot.item (.built (.group index body))], f)
    let look := fun (behind negated : Bool) => do
      let outer := (← get).lookBehindFrom
      if behind && outer.isNone then
        modify fun s => { s with lookBehindFrom := some (s.groupCount + 1) }
      let (items, _) ← readBranches f true false [] fuel
      if behind then modify ({ · with lookBehindFrom := outer })
      closing
      let body := Item.sequence f items
      let groups := (← get).finished
      let p :=
        if behind then .behind negated (body.width groups).least body else .ahead negated body
      return ([Slot.item (.built p)], f)
    if !(← accept '?') then capture none
    else
      match ← take with
      | none => fail .unexpectedEnd
      | some (.char 'P') =>
        if ← accept '<' then
          let name ← takeName '>' "group name"
          checkName name
          capture (some name)
        else if ← accept '=' then return ([.item (← namedReference)], f)
        else
          match ← take with
          | none => fail .unexpectedEnd
          | some piece => fail (.unknownExtension (String.ofList ('P' :: piece.text)))
      | some (.char ':') =>
        let (items, _) ← readBranches f true false [] fuel
        closing
        return ([.bare items], f)
      | some (.char '#') =>
        skipComment ((← get).pieces.length + 1)
        return ([], f)
      | some (.char '=') => look false false
      | some (.char '!') => look false true
      | some (.char '<') =>
        match ← take with
        | none => fail .unexpectedEnd
        | some (.char '=') => look true false
        | some (.char '!') => look true true
        | some piece => fail (.unknownExtension (String.ofList ('<' :: piece.text)))
      | some (.char '(') =>
        let index ← askedGroup
        let (yes, _) ← readItems f false [] fuel
        let no ←
          if ← accept '|' then
            let (no, _) ← readItems f false [] fuel
            if ← sees '|' then fail .tooManyBranches
            pure no
          else pure []
        closing
        let part := fun (slots : List Slot) => Item.sequence f (Slot.items slots.reverse)
        return ([.item (.built (.ifGroup index (part yes) (part no)))], f)
      | some (.char '>') =>
        let (items, _) ← readBranches f true false [] fuel
        closing
        return ([.item (.built (.atomic (Item.sequence f items)))], f)
      | some (.char c) =>
        if isFlag c || c == '-' then
          match ← flagGroup c with
          | .whole on =>
            unless first do fail .misplacedFlags
            return ([], applyFlags f on [])
          | .scoped on off =>
            let inner := applyFlags f on off
            let (items, _) ← readBranches inner true false [] fuel
            closing
            return ([.item (.built (Item.sequence inner items))], f)
        else fail (.unknownExtension (String.ofList [c]))
      | some piece => fail (.unknownExtension (String.ofList piece.text))

end

end PatternReader

/-- A pattern together with the names of its groups. -/
structure NamedPattern where
  pattern : Pattern
  names : List (String × Nat) := []
deriving Repr, DecidableEq

namespace NamedPattern

/-- Reads a written pattern under the given settings. -/
def read (flags : PatternFlags) (written : String) : Except PatternRefusal NamedPattern := do
  let pieces := Piece.ofText written.toList
  let whole : ReadPattern (List Item × PatternFlags) := do
    goTo pieces
    PatternReader.readBranches flags false true [] (2 * pieces.length + 4)
  let ((items, f), s) ← whole.run { pieces := [] }
  if s.sawAscii && s.sawUnicode then throw .bothScopes
  unless s.pieces.isEmpty do throw (.malformed .unbalancedParenthesis)
  match s.asked.find? (s.groupCount < ·) with
  | some index => throw (.malformed (.noSuchGroup index))
  | none => pure ()
  let p := Item.sequence f items
  match p.firstFault s.finished s.template with
  | some e => throw (.malformed e)
  | none => return ⟨p, s.names⟩

end NamedPattern

end SecretScan

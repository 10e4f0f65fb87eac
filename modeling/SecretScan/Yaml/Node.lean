import SecretScan.Yaml.Tag
import SecretScan.Yaml.TokenStream

/-!
# Nodes

A document is a graph of nodes: an alias leads to a node that is already there, and
a node may contain itself. Nodes are numbered in the order in which they begin, and
children are given by their numbers.

The grammar is read from the tokens by recursive descent. What a name refers to is
settled on the way, so that of a wrong name and a wrong token the one that comes
first is reported.
-/

namespace SecretScan.Yaml

/-- The content of a node. -/
inductive NodeContent where
  | scalar (text : String)
  | sequence (items : List Nat)
  | mapping (fields : List (Nat × Nat))
deriving DecidableEq, Repr

/-- How the kind of a content is named. -/
def NodeContent.kind : NodeContent → String
  | scalar _ => "scalar"
  | sequence _ => "sequence"
  | mapping _ => "mapping"

/-- A node of a document, with the place where it begins. -/
structure Node where
  tag : Tag
  content : NodeContent
  start : Mark
deriving DecidableEq, Repr

/-- A document: its nodes and the number of the outermost one. -/
structure Graph where
  nodes : Array Node
  root : Nat
deriving Repr

/-- An anchor: its name, the number of its node, and the place where that begins. -/
structure Anchor where
  name : String
  node : Nat
  start : Mark
deriving DecidableEq, Repr

/-- What stands in front of the content of a node. -/
structure Properties where
  anchor : Option String := none
  /-- The name of the tag. -/
  tag : Option String := none
  /-- Where the properties begin, if there are any. -/
  start : Option Mark := none
deriving DecidableEq, Repr

/-- The state of reading nodes. -/
structure Composer where
  tokens : List PlacedToken
  failure : Option ReadError
  /-- What the handles of tags stand for. -/
  handles : List (String × String) := []
  anchors : List Anchor := []
  nodes : Array Node := #[]

/-- Reading nodes, which may fail. -/
abbrev Compose := StateT Composer (Except ReadError)

namespace Compose

/-- Fails with a complaint. -/
def complain {α : Type} (c : Complaint) : Compose α := throw (.document c)

/-- Fails where the tokens end although the stream has not. -/
def endless {α : Type} : Compose α :=
  complain { fault := .parser, problem := "the stream has no end" }

/-- The token ahead with its places. -/
def ahead : Compose PlacedToken := do
  let s ← get
  match s.tokens, s.failure with
  | t :: _, _ => return t
  | [], some e => throw e
  | [], none => endless

/-- The token ahead. -/
def peek : Compose Token := do return (← ahead).token

/-- Fails for the token ahead, which is not what was expected. -/
def wrong {α : Type} (activity : String) (start : Mark) (expected : String) : Compose α := do
  let t ← ahead
  complain
    { fault := .parser, context := some (activity, some start)
      problem := expected ++ " " ++ Text.quoted t.token.label, mark := some t.start }

/-- Drops the token ahead. -/
def drop : Compose Unit := modify fun s => { s with tokens := s.tokens.drop 1 }

/-- Drops the token ahead and gives it. -/
def take : Compose PlacedToken := do
  let t ← ahead
  drop
  return t

/-- Drops the token ahead if it is the given one, and gives the place where it ends. -/
def accept (t : Token) : Compose (Option Mark) := do
  let next ← ahead
  if next.token == t then
    drop
    return some next.stop
  else return none

/-- Whether the token ahead is one of some. -/
def sees (ts : List Token) : Compose Bool := do
  return ts.contains (← peek)

/-- Adds a node and gives its number. -/
def addNode (tag : Tag) (content : NodeContent) (start : Mark) : Compose Nat := do
  let n := (← get).nodes.size
  modify fun s => { s with nodes := s.nodes.push ⟨tag, content, start⟩ }
  return n

/-- Fills a node that was added before its content was known. -/
def fill (n : Nat) (content : NodeContent) : Compose Unit :=
  modify fun s => { s with nodes := s.nodes.modify n fun x => { x with content } }

/-- Gives a node the name of an anchor. -/
def setAnchor (anchor : Option String) (node : Nat) (start : Mark) : Compose Unit :=
  match anchor with
  | some name => modify fun s => { s with anchors := ⟨name, node, start⟩ :: s.anchors }
  | none => pure ()

/-- The anchor with a name. -/
def anchor? (name : String) : Compose (Option Anchor) := do
  return (← get).anchors.find? (·.name = name)

/-- Insists that the name of an anchor is new. -/
def checkAnchor (anchor : Option String) (start : Mark) : Compose Unit := do
  match anchor with
  | some name =>
    match ← anchor? name with
    | some first =>
      complain
        { fault := .composer
          context := some ("found duplicate anchor " ++ Text.quoted name ++ "; first occurrence",
            some first.start)
          problem := "second occurrence", mark := some start }
    | none => pure ()
  | none => pure ()

/-- An empty node, where one may be left out. -/
def emptyNode (start : Mark) : Compose Nat := addNode .null (.scalar "") start

/-- The name of a tag, once its handle is replaced by what it stands for. -/
def tagName (t : WrittenTag) (start place : Mark) : Compose String := do
  match t.handle with
  | none => return t.suffix
  | some h =>
    match (← get).handles.lookup h with
    | some written => return written ++ t.suffix
    | none =>
      complain
        { fault := .parser, context := some ("while parsing a node", some start)
          problem := "found undefined tag handle " ++ Text.quoted h, mark := some place }

/-- The anchor and the tag in front of a node, in either order. -/
def properties : Compose Properties := do
  let first ← ahead
  match first.token with
  | .anchor name =>
    drop
    let next ← ahead
    match next.token with
    | .tag t =>
      drop
      return ⟨some name, some (← tagName t first.start next.start), some first.start⟩
    | _ => return ⟨some name, none, some first.start⟩
  | .tag t =>
    drop
    match ← peek with
    | .anchor name =>
      drop
      return ⟨some name, some (← tagName t first.start first.start), some first.start⟩
    | _ => return ⟨none, some (← tagName t first.start first.start), some first.start⟩
  | _ => return {}

/-- The tag of a node, which is the given one unless the tag is left open. -/
def tagOr (default : Tag) : Option String → Tag
  | none => default
  | some "!" => default
  | some name => Tag.ofName name

/-- Fails where the content of a node was expected. -/
def noContent {α : Type} (block : Bool) (start : Mark) : Compose α :=
  wrong (if block then "while parsing a block node" else "while parsing a flow node") start
    "expected the node content, but found"

mutual

/-- A node. In a block the collections of blocks may stand, and as the value of a
mapping a sequence may stand at the column of its mapping. -/
def node (block indentless : Bool) : Nat → Compose Nat
  | 0 => endless
  | fuel + 1 => do
    let first ← ahead
    match first.token with
    | .alias name =>
      drop
      match ← anchor? name with
      | some a => return a.node
      | none =>
        complain
          { fault := .composer, problem := "found undefined alias " ++ Text.quoted name
            mark := some first.start }
    | _ =>
      let given ← properties
      let next ← ahead
      let start := given.start.getD next.start
      let leaf := fun (tag : Tag) (text : String) => do
        checkAnchor given.anchor start
        let n ← addNode tag (.scalar text) start
        setAnchor given.anchor n start
        return n
      let collection := fun (default : Tag) (body : Compose NodeContent) => do
        checkAnchor given.anchor start
        let n ← addNode (tagOr default given.tag) (.sequence []) start
        setAnchor given.anchor n start
        fill n (← body)
        return n
      let empty := fun (_ : Unit) =>
        if given.start.isSome then leaf (tagOr .null given.tag) "" else noContent block start
      match next.token with
      | .blockEntry =>
        if indentless then collection .seq (indentlessEntries [] fuel) else empty ()
      | .scalar text plain =>
        drop
        match given.tag with
        | none => leaf (if plain then Tag.evident text.toList else .str) text
        | some "!" => leaf (Tag.evident text.toList) text
        | some name => leaf (Tag.ofName name) text
      | .flowSequenceStart =>
        collection .seq (do drop; flowEntries next.start true [] fuel)
      | .flowMappingStart =>
        collection .map (do drop; flowFields next.start true [] fuel)
      | .blockSequenceStart =>
        if block then collection .seq (do drop; blockEntries next.start [] fuel) else empty ()
      | .blockMappingStart =>
        if block then collection .map (do drop; blockFields next.start [] fuel) else empty ()
      | _ => empty ()

/-- The entries of a sequence in a block. -/
def blockEntries (start : Mark) (items : List Nat) : Nat → Compose NodeContent
  | 0 => endless
  | fuel + 1 => do
    match ← accept .blockEntry with
    | some place =>
      let n ← if ← sees [.blockEntry, .blockEnd] then emptyNode place else node true false fuel
      blockEntries start (items ++ [n]) fuel
    | none =>
      if (← accept .blockEnd).isSome then return .sequence items
      else wrong "while parsing a block collection" start "expected <block end>, but found"

/-- The entries of a sequence at the column of the mapping around it. -/
def indentlessEntries (items : List Nat) : Nat → Compose NodeContent
  | 0 => endless
  | fuel + 1 => do
    match ← accept .blockEntry with
    | some place =>
      let n ← if ← sees [.blockEntry, .key, .value, .blockEnd] then emptyNode place
        else node true false fuel
      indentlessEntries (items ++ [n]) fuel
    | none => return .sequence items

/-- The fields of a mapping in a block. Key and value may both be left out. -/
def blockFields (start : Mark) (fields : List (Nat × Nat)) : Nat → Compose NodeContent
  | 0 => endless
  | fuel + 1 => do
    match ← accept .key with
    | some place =>
      let k ← if ← sees [.key, .value, .blockEnd] then emptyNode place else node true true fuel
      let v ←
        match ← accept .value with
        | some place =>
          if ← sees [.key, .value, .blockEnd] then emptyNode place else node true true fuel
        | none => do emptyNode (← ahead).start
      blockFields start (fields ++ [(k, v)]) fuel
    | none =>
      if (← accept .blockEnd).isSome then return .mapping fields
      else wrong "while parsing a block mapping" start "expected <block end>, but found"

/-- The key and the value of a field in brackets, after the mark of its key. -/
def flowField (place : Mark) (closing : Token) : Nat → Compose (Nat × Nat)
  | 0 => endless
  | fuel + 1 => do
    let k ← if ← sees [.value, .flowEntry, closing] then emptyNode place
      else node false false fuel
    let v ←
      match ← accept .value with
      | some place =>
        if ← sees [.flowEntry, closing] then emptyNode place else node false false fuel
      | none => do emptyNode (← ahead).start
    return (k, v)

/-- The entries of a sequence in brackets. A field in it makes a mapping by itself. -/
def flowEntries (start : Mark) (first : Bool) (items : List Nat) : Nat → Compose NodeContent
  | 0 => endless
  | fuel + 1 => do
    if (← accept .flowSequenceEnd).isSome then return .sequence items
    else
      unless first do
        unless (← accept .flowEntry).isSome do
          wrong "while parsing a flow sequence" start "expected ',' or ']', but got"
      let next ← ahead
      match next.token with
      | .key =>
        let n ← addNode .map (.mapping []) next.start
        drop
        let f ← flowField next.stop .flowSequenceEnd fuel
        fill n (.mapping [f])
        flowEntries start false (items ++ [n]) fuel
      | .flowSequenceEnd =>
        drop
        return .sequence items
      | _ => flowEntries start false (items ++ [← node false false fuel]) fuel

/-- The fields of a mapping in braces. A field without a key mark has no value. -/
def flowFields (start : Mark) (first : Bool) (fields : List (Nat × Nat)) :
    Nat → Compose NodeContent
  | 0 => endless
  | fuel + 1 => do
    if (← accept .flowMappingEnd).isSome then return .mapping fields
    else
      unless first do
        unless (← accept .flowEntry).isSome do
          wrong "while parsing a flow mapping" start "expected ',' or '\x7d', but got"
      let next ← ahead
      match next.token with
      | .key =>
        drop
        let f ← flowField next.stop .flowMappingEnd fuel
        flowFields start false (fields ++ [f]) fuel
      | .flowMappingEnd =>
        drop
        return .mapping fields
      | _ =>
        let k ← node false false fuel
        let v ← emptyNode (← ahead).start
        flowFields start false (fields ++ [(k, v)]) fuel

end

/-- What handles stand for unless a directive says otherwise. -/
def standardHandles : List (String × String) := [("!", "!"), ("!!", Tag.standard)]

/-- Fails for a directive. -/
def wrongDirective {α : Type} (problem : String) (place : Mark) : Compose α :=
  complain { fault := .parser, problem, mark := some place }

/-- The directives in front of a document. A version and each handle may be given
once. -/
def directives (version : Bool) (handles : List (String × String)) : Nat → Compose Unit
  | 0 => endless
  | fuel + 1 => do
    let next ← ahead
    match next.token with
    | .directive d =>
      drop
      match d with
      | .version major =>
        if version then wrongDirective "found duplicate YAML directive" next.start
        if major ≠ 1 then
          wrongDirective "found incompatible YAML document (version 1.* is required)" next.start
        directives true handles fuel
      | .tag handle written =>
        if (handles.lookup handle).isSome then
          wrongDirective ("duplicate tag handle " ++ Text.quoted handle) next.start
        directives version ((handle, written) :: handles) fuel
      | .other => directives version handles fuel
    | _ => modify fun s => { s with handles := handles ++ standardHandles }

/-- Drops the marks at the end of a document. -/
def dropEnds : Nat → Compose Unit
  | 0 => endless
  | fuel + 1 => do
    if (← accept .documentEnd).isSome then dropEnds fuel

/-- Directives and the mark at the start of a document, unless the stream ends; and the
place where they begin. -/
def explicitStart (fuel : Nat) : Compose (Option Mark) := do
  dropEnds fuel
  let first ← ahead
  if first.token == .streamEnd then return none
  else
    directives false [] fuel
    let next ← ahead
    unless (← accept .documentStart).isSome do
      complain
        { fault := .parser
          problem := "expected '<document start>', but found " ++ Text.quoted next.token.label
          mark := some next.start }
    return some first.start

/-- The outermost node of a document that began with a mark. -/
def markedRoot (fuel : Nat) : Compose Nat := do
  let next ← ahead
  match next.token with
  | .directive _ | .documentStart | .documentEnd | .streamEnd => emptyNode next.start
  | _ => node true false fuel

/-- The outermost node of the first document, unless the stream is empty. -/
def firstRoot (fuel : Nat) : Compose (Option Nat) := do
  match ← peek with
  | .directive _ | .documentStart | .streamEnd =>
    if (← explicitStart fuel).isSome then return some (← markedRoot fuel) else return none
  | _ =>
    modify fun s => { s with handles := standardHandles }
    return some (← node true false fuel)

/-- The place where a node begins. -/
def startOf (n : Nat) : Compose (Option Mark) := do
  return (← get).nodes[n]?.map (·.start)

/-- The only document of a stream, if there is one. -/
def document (fuel : Nat) : Compose (Option Nat) := do
  match ← firstRoot fuel with
  | none => return none
  | some root =>
    discard (accept .documentEnd)
    match ← explicitStart fuel with
    | none => return some root
    | some place =>
      complain
        { fault := .composer
          context := some ("expected a single document in the stream", ← startOf root)
          problem := "but found another document", mark := some place }

end Compose

namespace Graph

/-- Whether a character may be in a document. -/
def isAllowed (c : Char) : Bool :=
  let n := c.toNat
  n == 0x09 || n == 0x0A || n == 0x0D || (0x20 ≤ n && n ≤ 0x7E) || n == 0x85 ||
    (0xA0 ≤ n && n ≤ 0xFFFD) || 0x10000 ≤ n

/-- What is said about a character that may not be in a document. -/
def forbidden (index : Nat) (c : Char) : Complaint :=
  { fault := .reader
    problem := "unacceptable character #x" ++
      String.ofList (Text.hexDigits c.toNat 4) ++
      ": special characters are not allowed\n  in \"" ++ Mark.documentName ++ "\", position " ++
      toString index }

/-- What is said about the first character that may not be in a document. -/
def firstForbidden? (index : Nat) : List Char → Option Complaint
  | [] => none
  | c :: rest => if isAllowed c then firstForbidden? (index + 1) rest else some (forbidden index c)

/-- The document in a text, if there is one. -/
def ofText (text : List Char) : Except ReadError (Option Graph) := do
  if let some c := firstForbidden? 0 text then throw (.document c)
  let stream := TokenStream.ofText text
  let (root, s) ←
    (Compose.document (2 * stream.tokens.length + 8)).run
      { tokens := stream.tokens, failure := stream.failure }
  return root.map fun r => ⟨s.nodes, r⟩

end Graph

end SecretScan.Yaml

import SecretScan.Yaml.Node
import SecretScan.Yaml.ScalarValue

/-!
# From nodes to values

First every node is visited once, level by level: a collection is entered only after
everything on its own level has been looked at. This order decides which of several
faults is reported. On the way mappings take over the fields of the mappings that they
merge. Then nodes can be unfolded into values.
-/

namespace SecretScan.Yaml

/-- The state of visiting nodes. -/
structure Visitor where
  nodes : Array Node
  /-- The values of the scalars that were visited. -/
  scalars : List (Nat × Value) := []
  /-- The collections that were met, last first. -/
  met : List Nat := []

/-- Visiting nodes, which may fail. -/
abbrev Visit := StateT Visitor (Except ReadError)

namespace Visit

/-- Fails for a node that its tag does not fit. -/
def misfit {α : Type} (place : Mark) (problem : String)
    (context : Option (String × Option Mark) := none) : Visit α :=
  throw (.document { fault := .constructor, context, problem, mark := some place })

/-- Fails for a node inside another one, which is being built. -/
def misfitIn {α : Type} (activity : String) (start place : Mark) (problem : String) : Visit α :=
  misfit place problem (some (activity, some start))

/-- What is said about a node of the wrong kind. -/
def butFound (what : String) (x : Node) : String :=
  "expected " ++ what ++ ", but found " ++ x.content.kind

/-- What stands for a node that is not there. -/
def noNode : Node := ⟨.null, .scalar "", {}⟩

/-- The node with a number. -/
def node (n : Nat) : Visit Node := do
  return ((← get).nodes[n]?).getD noNode

/-- The fields of a mapping. -/
def fields (n : Nat) : Visit (List (Nat × Nat)) := do
  let x ← node n
  match x.content with
  | .mapping fs => return fs
  | _ => misfit x.start (butFound "a mapping node" x)

/-- What is going on while a mapping is built. -/
def buildingMap : String := "while constructing a mapping"

/-- Gives a node another tag or content. -/
def change (n : Nat) (x : Node) : Visit Unit :=
  modify fun s => { s with nodes := s.nodes.setIfInBounds n x }

/-- Gives a mapping other fields. -/
def setFields (n : Nat) (fs : List (Nat × Nat)) : Visit Unit := do
  change n { ← node n with content := .mapping fs }

/-- The first field whose key has a tag, with the fields around it. -/
def splitAtTag (tag : Tag) (before : List (Nat × Nat)) :
    List (Nat × Nat) → Visit (Option (List (Nat × Nat) × (Nat × Nat) × List (Nat × Nat)))
  | [] => return none
  | f :: rest => do
    if (← node f.1).tag = tag then return some (before, f, rest)
    else splitAtTag tag (before ++ [f]) rest

/-- Keys that stand for the value of their mapping become ordinary texts. -/
def plainKeys : List (Nat × Nat) → Visit Unit
  | [] => return
  | (k, _) :: rest => do
    let x ← node k
    if x.tag = .value then change k { x with tag := .str }
    plainKeys rest

mutual

/-- Replaces the merge keys of a mapping by the fields of what they name. -/
def flatten (n : Nat) : Nat → Visit Unit
  | 0 => return
  | fuel + 1 => do
    plainKeys (← fields n)
    let merged ← mergedFields n [] fuel
    unless merged.isEmpty do setFields n (merged ++ (← fields n))

/-- The fields that the merge keys of a mapping name; the keys are removed. -/
def mergedFields (n : Nat) (sofar : List (Nat × Nat)) : Nat → Visit (List (Nat × Nat))
  | 0 => return sofar
  | fuel + 1 => do
    match ← splitAtTag .merge [] (← fields n) with
    | none => return sofar
    | some (before, (_, v), after) =>
      setFields n (before ++ after)
      let x ← node v
      let start := (← node n).start
      match x.content with
      | .mapping _ =>
        flatten v fuel
        mergedFields n (sofar ++ (← fields v)) fuel
      | .sequence items =>
        let parts ← mergedItems start items fuel
        mergedFields n (sofar ++ parts.reverse.flatten) fuel
      | .scalar _ =>
        misfitIn buildingMap start x.start
          (butFound "a mapping or list of mappings for merging" x)

/-- The fields of the mappings in a sequence, one list for each. -/
def mergedItems (start : Mark) : List Nat → Nat → Visit (List (List (Nat × Nat)))
  | [], _ => return []
  | _, 0 => return []
  | m :: rest, fuel + 1 => do
    let x ← node m
    match x.content with
    | .mapping _ =>
      flatten m fuel
      let fs ← fields m
      return fs :: (← mergedItems start rest fuel)
    | _ => misfitIn buildingMap start x.start (butFound "a mapping for merging" x)

end

/-- The text of a scalar. A mapping with a value of its own stands for that value. -/
def scalarText (n : Nat) : Nat → Visit String
  | 0 => throw (.bare .endless)
  | fuel + 1 => do
    let x ← node n
    let refuse := misfit x.start (butFound "a scalar node" x)
    match x.content with
    | .scalar s => return s
    | .sequence _ => refuse
    | .mapping fs =>
      match ← splitAtTag .value [] fs with
      | some (_, (_, v), _) => scalarText v fuel
      | none => refuse

/-- Whether a tag is one of a collection. -/
def isCollection : Tag → Bool
  | .seq | .map | .set | .omap | .pairs => true
  | _ => false

/-- Visits a node: a scalar gets its value, a collection is noted for later. -/
def visit (n : Nat) : Visit Unit := do
  let s ← get
  if (s.scalars.lookup n).isSome || s.met.contains n then return
  let x ← node n
  if isCollection x.tag then modify fun s => { s with met := n :: s.met }
  else
    let unknown := misfit x.start
      ("could not determine a constructor for the tag " ++ Text.quoted x.tag.name)
    match x.tag with
    | .merge | .value | .other _ => unknown
    | tag =>
      let text ← scalarText n (s.nodes.size + 1)
      match x.content, tag with
      | .mapping _, .timestamp => throw (.bare .timeOfCollection)
      | _, _ =>
        match ScalarValue.ofText tag text with
        | some (.ok v) => modify fun s => { s with scalars := (n, v) :: s.scalars }
        | some (.error e) => throw (e.at x.start)
        | none => unknown

/-- Visits keys and values in order. A collection cannot be a key. -/
def visitFields (start : Mark) : List (Nat × Nat) → Visit Unit
  | [] => return
  | (k, v) :: rest => do
    visit k
    let key ← node k
    if isCollection key.tag then misfitIn buildingMap start key.start "found unhashable key"
    visit v
    visitFields start rest

/-- Visits the pairs of a list of pairs: mappings of one field each. -/
def visitPairs (activity : String) (start : Mark) : List Nat → Visit Unit
  | [] => return
  | m :: rest => do
    let x ← node m
    match x.content with
    | .mapping [(k, v)] =>
      visit k
      visit v
      visitPairs activity start rest
    | .mapping fs =>
      misfitIn activity start x.start
        s!"expected a single mapping item, but found {fs.length} items"
    | _ => misfitIn activity start x.start (butFound "a mapping of length 1" x)

/-- What is going on while a list of pairs is built. -/
def buildingPairs : Tag → String
  | .omap => "while constructing an ordered map"
  | _ => "while constructing pairs"

/-- Enters a collection and visits what is in it. -/
def enter (n : Nat) : Visit Unit := do
  let x ← node n
  match x.tag, x.content with
  | .seq, .sequence items => items.forM visit
  | .seq, _ => misfit x.start (butFound "a sequence node" x)
  | .omap, .sequence items | .pairs, .sequence items =>
    visitPairs (buildingPairs x.tag) x.start items
  | .omap, _ | .pairs, _ =>
    misfitIn (buildingPairs x.tag) x.start x.start (butFound "a sequence" x)
  | _, _ =>
    match x.content with
    | .mapping _ => flatten n (4 * (← get).nodes.size + 8)
    | _ => pure ()
    visitFields x.start (← fields n)

/-- Enters collections in the order in which they were met. -/
def enterAll (entered : Nat) : Nat → Visit Unit
  | 0 => return
  | fuel + 1 => do
    let met := (← get).met
    match met.reverse[entered]? with
    | none => return
    | some n =>
      enter n
      enterAll (entered + 1) fuel

end Visit

/-! ## Documents -/

/-- The order in which the members of a set come. It hangs on more than the members, so each
node of a document may have one of its own. -/
class SetOrder where
  arrange : Nat → List Value → List Value
  perm (n : Nat) (members : List Value) : (arrange n members).Perm members

/-- Members in the order in which they are written. -/
instance (priority := low) asWritten : SetOrder where
  arrange _ members := members
  perm _ _ := .refl _

/-- A document whose nodes have been visited: what they hold after merging, and the values of
its scalars. -/
structure Document where
  nodes : Array Node
  scalars : List (Nat × Value)
  root : Nat

/-- Visits the nodes of a document. -/
def Graph.visited (g : Graph) : Except ReadError Document := do
  let visiting : Visit Unit := do
    Visit.visit g.root
    Visit.enterAll 0 (g.nodes.size + 1)
  let ((), s) ← visiting.run { nodes := g.nodes }
  return { nodes := s.nodes, scalars := s.scalars, root := g.root }

/-- What can come back to itself: a collection, or a pair in a list of pairs. -/
inductive Spot where
  | node (n : Nat)
  | pair (list index : Nat)
deriving DecidableEq, Repr

/-- The values of the nodes that are known already. -/
abbrev Unfolded := Array (Option Value)

namespace Document

/-- The document in a text, if there is one. -/
def ofText (text : String) : Except ReadError (Option Document) := do
  match ← Graph.ofText text.toList with
  | none => return none
  | some g => return some (← g.visited)

/-- The value of a scalar. -/
def scalar (d : Document) (n : Nat) : Value := (d.scalars.lookup n).getD .null

/-- Puts a field into a mapping: a key that is there keeps its place and its first form. A
key is the same as itself, even if its value is not. -/
def put (key : Nat × Value) (value : Nat) :
    List ((Nat × Value) × Nat) → List ((Nat × Value) × Nat)
  | [] => [(key, value)]
  | (k, v) :: rest =>
    if k.1 == key.1 || k.2.sameKey key.2 then (k, value) :: rest else (k, v) :: put key value rest

/-- The keys of some fields with the nodes of their values, each key once. -/
def distinct (d : Document) (fields : List (Nat × Nat)) : List (Value × Nat) :=
  (fields.foldl (fun m (k, v) => put (k, d.scalar k) v m) []).map fun (k, v) => (k.2, v)

/-- The kind of a collection by its tag. -/
def kindOf : Tag → CollectionKind
  | .map => .map
  | .set => .set
  | _ => .list

section Values

variable [SetOrder]

mutual

/-- The value of a node inside others, and whether something in it comes back to itself. If
nothing does, the value is kept for the next time. -/
def unfold (d : Document) (inside : List Spot) (n : Nat) : Nat → StateM Unfolded (Value × Bool)
  | 0 => return (.null, false)
  | fuel + 1 => do
    match (← get)[n]?.join, d.scalars.lookup n, d.nodes[n]? with
    | some v, _, _ => return (v, false)
    | none, some v, _ => return (v, false)
    | none, none, none => return (.null, false)
    | none, none, some x =>
      if inside.contains (.node n) then return (.again (kindOf x.tag), true)
      else
        let inside := .node n :: inside
        let (v, looped) ←
          match x.tag, x.content with
          | .set, .mapping fs =>
            pure (Value.set (SetOrder.arrange n ((d.distinct fs).map (·.1))), false)
          | _, .mapping fs => do
            let (fs, looped) ← unfoldFields d inside (d.distinct fs) fuel
            pure (Value.map fs, looped)
          | .seq, .sequence items => do
            let (vs, looped) ← unfoldItems d inside items fuel
            pure (Value.list vs, looped)
          | _, .sequence items => do
            let (vs, looped) ← unfoldPairs d inside n 0 items fuel
            pure (Value.list vs, looped)
          | _, .scalar _ => pure (Value.null, false)
        unless looped do modify fun known => known.setIfInBounds n (some v)
        return (v, looped)
termination_by structural fuel => fuel

/-- The values of items. -/
def unfoldItems (d : Document) (inside : List Spot) :
    List Nat → Nat → StateM Unfolded (List Value × Bool)
  | [], _ => return ([], false)
  | _, 0 => return ([], false)
  | n :: rest, fuel + 1 => do
    let (v, looped) ← unfold d inside n fuel
    let (vs, more) ← unfoldItems d inside rest fuel
    return (v :: vs, looped || more)
termination_by structural _ fuel => fuel

/-- The values of fields. -/
def unfoldFields (d : Document) (inside : List Spot) :
    List (Value × Nat) → Nat → StateM Unfolded (List (Value × Value) × Bool)
  | [], _ => return ([], false)
  | _, 0 => return ([], false)
  | (k, n) :: rest, fuel + 1 => do
    let (v, looped) ← unfold d inside n fuel
    let (fs, more) ← unfoldFields d inside rest fuel
    return ((k, v) :: fs, looped || more)
termination_by structural _ fuel => fuel

/-- The pairs of a list, from the one with an index on. -/
def unfoldPairs (d : Document) (inside : List Spot) (list index : Nat) :
    List Nat → Nat → StateM Unfolded (List Value × Bool)
  | [], _ => return ([], false)
  | _, 0 => return ([], false)
  | n :: rest, fuel + 1 => do
    let (p, looped) ← unfoldPair d inside list index n fuel
    let (ps, more) ← unfoldPairs d inside list (index + 1) rest fuel
    return (p :: ps, looped || more)
termination_by structural _ fuel => fuel

/-- The pair that is written as a mapping of one field. -/
def unfoldPair (d : Document) (inside : List Spot) (list index n : Nat) :
    Nat → StateM Unfolded (Value × Bool)
  | 0 => return (.null, false)
  | fuel + 1 => do
    if inside.contains (.pair list index) then return (.again .pair, true)
    else
      match d.nodes[n]?.map Node.content with
      | some (.mapping [(k, v)]) =>
        let inside := .pair list index :: inside
        let (a, looped) ← unfold d inside k fuel
        let (b, more) ← unfold d inside v fuel
        return (.pair a b, looped || more)
      | _ => return (.null, false)
termination_by structural fuel => fuel

end

/-- The number of fields and items of a node. -/
def weight (x : Node) : Nat :=
  match x.content with
  | .scalar _ => 1
  | .sequence items => 2 * items.length + 2
  | .mapping fs => fs.length + 2

/-- More than the number of nodes and items on any way into a document. -/
def budget (d : Document) : Nat := (d.nodes.toList.map weight).foldl (· + ·) 2

/-- A value that is worked out without knowing one before. -/
def start {α : Type} (d : Document) (x : Nat → StateM Unfolded (α × Bool)) : α :=
  ((x d.budget).run (Array.replicate d.nodes.size none)).1.1

/-- The value of a node by itself. -/
def value (d : Document) (n : Nat) : Value := d.start (d.unfold [] n)

/-- A pair in a list of pairs by itself. -/
def pairValue (d : Document) (list index n : Nat) : Value :=
  d.start (d.unfoldPair [] list index n)

/-! ### Reading part by part

What is read item by item or field by field shows each part as it is by itself, also where the
part comes back to the whole. -/

/-- The keys of a mapping with the nodes of their values. -/
def fields? (d : Document) (n : Nat) : Option (List (Value × Nat)) :=
  match d.nodes[n]? with
  | some ⟨.map, .mapping fs, _⟩ => some (d.distinct fs)
  | _ => none

/-- A mapping read field by field, or any other value. -/
def fieldwise (d : Document) (n : Nat) : Value :=
  match d.fields? n with
  | some fields => .map (fields.map fun (k, v) => (k, d.value v))
  | none => d.value n

/-- The items of a list, each read by itself in the given way. -/
def items? (d : Document) (item : Nat → Value) (n : Nat) : Option (List Value) :=
  match d.nodes[n]? with
  | some ⟨.seq, .sequence items, _⟩ => some (items.map item)
  | some ⟨.omap, .sequence items, _⟩ | some ⟨.pairs, .sequence items, _⟩ =>
    some (items.zipIdx.map fun (m, i) => d.pairValue n i m)
  | _ => none

end Values

end Document

end SecretScan.Yaml

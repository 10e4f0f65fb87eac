import SecretScan.Pattern.Width
import SecretScan.Text.Identifier

/-!
# Elements of a written pattern

The written form is cut into pieces, a backslash and the character behind it
being one piece. Pieces become items, which a repetition can still look back at,
and items become patterns under the settings that hold where they stand.
-/

namespace SecretScan

/-- A unit of a written pattern. -/
inductive Piece where
  | char (c : Char)
  | escape (c : Char)
  /-- A backslash with nothing behind it. -/
  | dangling
deriving DecidableEq, Repr

namespace Piece

/-- The pieces of a written pattern. -/
def ofText : List Char → List Piece
  | [] => []
  | ['\\'] => [dangling]
  | '\\' :: c :: rest => escape c :: ofText rest
  | c :: rest => char c :: ofText rest

/-- The text of a piece. -/
def text : Piece → List Char
  | char c => [c]
  | escape c => ['\\', c]
  | dangling => ['\\']

/-- Whether a piece is a letter. -/
def isLetter : Piece → Bool
  | char c => Text.isLetter c
  | _ => false

end Piece

/-- The settings under which a piece is read. -/
structure PatternFlags where
  ignoreCase : Bool := false
  multiline : Bool := false
  dotAll : Bool := false
  verbose : Bool := false
  scope : Scope := .unicode
deriving DecidableEq, Repr

namespace PatternFlags

/-- What comparisons ignore under these settings. -/
def folding (f : PatternFlags) : Folding :=
  if f.ignoreCase then
    match f.scope with
    | .ascii => .ascii
    | .unicode => .unicode
  else .exact

end PatternFlags

/-- A character test before flags are applied. -/
inductive RawTest where
  /-- A code point; one that is no character matches nothing. -/
  | literal (n : Nat)
  | except (n : Nat)
  | set (negated : Bool) (members : List Member)
  | dot
deriving DecidableEq, Repr

/-- The character with a code point, if there is one. -/
def charOf? (n : Nat) : Option Char :=
  if n.isValidChar then some (Char.ofNat n) else none

namespace RawTest

/-- The test that a raw test stands for under the given settings. -/
def toTest (f : PatternFlags) : RawTest → CharTest
  | literal n =>
    match charOf? n with
    | some c => .exactly f.folding c
    | none => .oneOf .exact false []
  | except n =>
    match charOf? n with
    | some c => .except f.folding c
    | none => .any
  | set negated members => CharTest.ofMembers f.folding negated members
  | dot => if f.dotAll then .any else .anyInLine

/-- The members that the test contributes to a set, if it can be part of one. -/
def members? : RawTest → Option (List Member)
  | literal n => some ((charOf? n).map Member.char).toList
  | set false members => some members
  | _ => none

end RawTest

/-- An element of a sequence while it is being read. -/
inductive Item where
  | test (t : RawTest)
  | anchor (a : Anchor)
  | again (index : Nat)
  | repetition (p : Pattern)
  | built (p : Pattern)
deriving DecidableEq, Repr

namespace Item

/-- The pattern of an item under the given settings. -/
def toPattern (f : PatternFlags) : Item → Pattern
  | test t => .one (t.toTest f)
  | anchor a => .anchor a
  | again index => .again f.folding index
  | repetition p | built p => p

/-- Whether two equal items of this kind may be drawn out of alternatives. -/
def isShareable : Item → Bool
  | test _ | anchor _ | again _ => true
  | repetition _ | built _ => false

/-- The pattern of a sequence of items. -/
def sequence (f : PatternFlags) (items : List Item) : Pattern :=
  Pattern.ofList (items.map (toPattern f))

/-- The members of a set that alternatives of one character each amount to. -/
def mergedMembers? (branches : List (List Item)) : Option (List Member) :=
  (branches.mapM fun
    | [test t] => t.members?
    | _ => none).map List.flatten

/-- The first items of all branches, if they are one and the same. -/
def commonHead? : List (List Item) → Option Item
  | (i :: _) :: rest =>
    if i.isShareable && rest.all (fun b => b.head? == some i) then some i else none
  | _ => none

/-- Draws what all branches begin with out of them. -/
def shareHeads : Nat → List (List Item) → List Item × List (List Item)
  | 0, branches => ([], branches)
  | fuel + 1, branches =>
    match commonHead? branches with
    | some i =>
      let (shared, rest) := shareHeads fuel (branches.map (·.drop 1))
      (i :: shared, rest)
    | none => ([], branches)

/-- The items of an alternation. Alternatives of one character each become one
set, which matters because a set compares characters beyond the basic plane as
they are written. -/
def alternation (f : PatternFlags) (branches : List (List Item)) : List Item :=
  match branches with
  | [only] => only
  | _ =>
    let (shared, rest) := shareHeads (branches.headD []).length branches
    match mergedMembers? rest with
    | some members => shared ++ [test (.set false members)]
    | none => shared ++ [built (Pattern.anyOf (rest.map (sequence f)))]

end Item

/-- What stands last in a sequence: an item, or a group that is only there to hold
items together. -/
inductive Slot where
  | item (i : Item)
  | bare (items : List Item)
deriving DecidableEq, Repr

namespace Slot

/-- The items of a sequence of slots. -/
def items : List Slot → List Item
  | [] => []
  | item i :: rest => i :: items rest
  | bare is :: rest => is ++ items rest

end Slot

end SecretScan

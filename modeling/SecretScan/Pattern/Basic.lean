import SecretScan.Text.Blank
import SecretScan.Text.LetterCase
import SecretScan.Text.Numeral

/-!
# Patterns

A pattern is a tree that describes texts. Sequences and alternatives are binary,
so an induction over a pattern never meets a list of patterns.

Every question about case, about dots and about the reach of a character class
is settled inside the node that asks it: `Folding` says what a character test
ignores, `Scope` says which characters a class covers. A pattern therefore means
the same wherever it stands, and no flags travel with a match.
-/

namespace SecretScan

/-- What a comparison of characters ignores. -/
inductive Folding where
  /-- Nothing is ignored. -/
  | exact
  /-- The case of ASCII letters is ignored. -/
  | ascii
  /-- The case of all letters is ignored. -/
  | unicode
deriving DecidableEq, Repr

namespace Folding

/-- The representative of a character. -/
def lower : Folding → Char → Char
  | exact, c => c
  | ascii, c => c.toLower
  | unicode, c => Text.lower c

/-- Whether the folding distinguishes the character from another one. -/
def hasCase : Folding → Char → Bool
  | exact, _ => false
  | ascii, c => c.isAlpha
  | unicode, c => Text.hasCase c

/-- The other representatives that count as the same character. -/
def siblings : Folding → Char → List Char
  | unicode, c => Text.siblings c
  | _, _ => []

end Folding

/-- Which characters a class such as "digit" covers. -/
inductive Scope where
  | ascii
  | unicode
deriving DecidableEq, Repr

/-- The named classes of characters. -/
inductive CharClass where
  | digit
  | blank
  | word
deriving DecidableEq, Repr

namespace CharClass

/-- Whether a character belongs to the class. -/
def holds : CharClass → Scope → Char → Bool
  | digit, .ascii, c => c.isDigit
  | digit, .unicode, c => Text.isDigit c
  | blank, .ascii, c => Text.isAsciiBlank c
  | blank, .unicode, c => Text.isBlank c
  | word, .ascii, c => Text.isAsciiWord c
  | word, .unicode, c => Text.isWord c

end CharClass

/-- A member of a bracketed set. The ends of a range are code points, because a
range may end where no character stands. -/
inductive Member where
  | char (c : Char)
  | range (lo hi : Nat)
  | cls (k : CharClass) (scope : Scope) (negated : Bool)
deriving DecidableEq, Repr

namespace Member

/-- The last code point of the basic plane. -/
def basicPlaneEnd : Nat := 0xFFFF

/-- The characters whose representative is the given one. -/
def preimages : Folding → Char → List Char
  | .exact, c => [c]
  | .ascii, c => [c, c.toUpper].filter (·.toLower == c)
  | .unicode, c => Text.withLower c

/-- Whether a character, already folded, belongs to a folded member. Beyond the
basic plane a single character is compared as it was written, and a range is
also asked about the upper case. -/
def holdsFolded (f : Folding) (c : Char) : Member → Bool
  | .char d =>
    let l := f.lower d
    if l.toNat ≤ basicPlaneEnd then c == l || (f.siblings l).contains c else c == d
  | .range lo hi =>
    ((c :: f.siblings c).any fun d => (preimages f d).any fun e =>
        e.toNat ≤ basicPlaneEnd && lo ≤ e.toNat && e.toNat ≤ hi) ||
      (basicPlaneEnd < hi && ((lo ≤ c.toNat && c.toNat ≤ hi) ||
        (lo ≤ (Text.upper c).toNat && (Text.upper c).toNat ≤ hi)))
  | .cls k scope negated => k.holds scope c != negated

/-- Whether a character belongs to a member as written. -/
def holds (c : Char) : Member → Bool
  | .char d => c == d
  | .range lo hi => lo ≤ c.toNat && c.toNat ≤ hi
  | .cls k scope negated => k.holds scope c != negated

/-- Whether folding matters to one of `n` code points from `lo` on. -/
def rangeHasCase (f : Folding) (lo : Nat) : Nat → Bool
  | 0 => false
  | n + 1 => f.hasCase (Char.ofNat lo) || rangeHasCase f (lo + 1) n

/-- Whether folding matters to the member. -/
def hasCase (f : Folding) : Member → Bool
  | .char d => basicPlaneEnd < (f.lower d).toNat || f.hasCase d
  | .range lo hi => basicPlaneEnd < hi || rangeHasCase f lo (hi + 1 - lo)
  | .cls .. => false

end Member

/-- What a single character has to satisfy. -/
inductive CharTest where
  /-- Every character. -/
  | any
  /-- Every character but a line feed. -/
  | anyInLine
  /-- One character, up to folding. -/
  | exactly (fold : Folding) (c : Char)
  /-- Every character but one, up to folding. -/
  | except (fold : Folding) (c : Char)
  /-- A character inside, or outside, a set of members. -/
  | oneOf (fold : Folding) (negated : Bool) (members : List Member)
deriving DecidableEq, Repr

namespace CharTest

/-- Whether `d` is the same character as `c` up to folding. -/
def same (fold : Folding) (c d : Char) : Bool :=
  if fold.hasCase c then
    let l := fold.lower c
    let r := fold.lower d
    r == l || (fold.siblings l).contains r
  else d == c

/-- A set of members with no more folding than its members need. -/
def ofMembers (fold : Folding) (negated : Bool) (members : List Member) : CharTest :=
  let used := if fold != .exact && members.any (Member.hasCase fold) then fold else .exact
  .oneOf used negated members

/-- Whether a character passes the test. -/
def holds : CharTest → Char → Bool
  | any, _ => true
  | anyInLine, d => d != '\n'
  | exactly fold c, d => same fold c d
  | except fold c, d => !same fold c d
  | oneOf .exact negated members, d => members.any (Member.holds d) != negated
  | oneOf fold negated members, d =>
    members.any (Member.holdsFolded fold (fold.lower d)) != negated

end CharTest

/-- A condition on a position that consumes nothing. -/
inductive Anchor where
  /-- The start of the text. -/
  | textStart
  /-- The end of the text. -/
  | textEnd
  /-- The start of the text or of a line. -/
  | lineStart
  /-- The end of the text or of a line. -/
  | lineEnd
  /-- The end of the text, a final line feed not counted. -/
  | lastLineEnd
  /-- A place between a word character and something else, or not such a place. -/
  | boundary (scope : Scope) (negated : Bool)
deriving DecidableEq, Repr

/-- How a repetition chooses its length. -/
inductive Greed where
  /-- As long as possible, giving back when the rest fails. -/
  | greedy
  /-- As short as possible, taking more when the rest fails. -/
  | lazy
  /-- As long as possible, giving nothing back. -/
  | possessive
deriving DecidableEq, Repr

/-- A pattern. -/
inductive Pattern where
  /-- The empty text. -/
  | empty
  /-- One character that passes a test. -/
  | one (test : CharTest)
  /-- A condition on the position. -/
  | anchor (a : Anchor)
  /-- One pattern and then another. -/
  | seq (first second : Pattern)
  /-- The first of two patterns with which the whole succeeds. -/
  | alt (first second : Pattern)
  /-- At least `least` and at most `most` repetitions. -/
  | times (greed : Greed) (least : Nat) (most : Option Nat) (body : Pattern)
  /-- A numbered group, which remembers what it matched. -/
  | group (index : Nat) (body : Pattern)
  /-- What a group matched, once more. -/
  | again (fold : Folding) (index : Nat)
  /-- A condition on the text that follows. -/
  | ahead (negated : Bool) (body : Pattern)
  /-- A condition on the `width` characters before. -/
  | behind (negated : Bool) (width : Nat) (body : Pattern)
  /-- A pattern whose first success is final. -/
  | atomic (body : Pattern)
  /-- One of two patterns, depending on whether a group has matched. -/
  | ifGroup (index : Nat) (yes no : Pattern)
deriving DecidableEq, Repr

end SecretScan

import SecretScan.Pattern.Basic

/-!
# Matching

A match is found by backtracking: `Pattern.run` tries to match at a cursor and
hands every way to do so, in order of preference, to a continuation, until the
continuation accepts one. The order of preference is part of the meaning of a
pattern: an alternative on the left is tried before one on the right, a greedy
repetition goes on before it stops.

The recursion is on the pattern. A repetition runs its body through `repeated`,
whose budget is exact: past the least number of rounds, a round that consumes
nothing is the last one, so no loop makes more rounds than the least number and
the characters that are left, and one.
-/

namespace SecretScan

/-- A position in a text: what stands before it, nearest first, and what follows. -/
structure Cursor where
  before : List Char
  after : List Char
  pos : Nat
deriving DecidableEq, Repr

namespace Cursor

/-- The position in front of a text. -/
def start (s : List Char) : Cursor := ⟨[], s, 0⟩

/-- The position `n` characters earlier, if the text reaches that far. -/
def back? : Nat → Cursor → Option Cursor
  | 0, c => some c
  | n + 1, ⟨b :: before, after, pos⟩ => back? n ⟨before, b :: after, pos - 1⟩
  | _ + 1, ⟨[], _, _⟩ => none

end Cursor

/-- Where a group began and ended last. A group that is open again keeps the end
of its previous round. -/
structure Mark where
  group : Nat
  start : Nat
  stop : Option Nat
deriving DecidableEq, Repr

/-- What the groups of a pattern have matched so far. -/
abbrev Marks := List Mark

namespace Marks

/-- Notes that a group begins. -/
def openGroup (group pos : Nat) : Marks → Marks
  | [] => [⟨group, pos, none⟩]
  | m :: rest =>
    if m.group = group then ⟨group, pos, m.stop⟩ :: rest else m :: openGroup group pos rest

/-- Notes that a group ends. -/
def closeGroup (group pos : Nat) : Marks → Marks
  | [] => []
  | m :: rest =>
    if m.group = group then ⟨group, m.start, some pos⟩ :: rest
    else m :: closeGroup group pos rest

/-- Start and end of what a group matched. -/
def span? (group : Nat) (marks : Marks) : Option (Nat × Nat) :=
  match marks.find? (·.group = group) with
  | some ⟨_, start, some stop⟩ => if start ≤ stop then some (start, stop) else none
  | _ => none

end Marks

/-- A way to go on after a match. -/
abbrev Continuation := Cursor → Marks → Option (Cursor × Marks)

namespace Anchor

/-- The character at a position, seen from a word boundary. -/
private def wordAt (scope : Scope) : List Char → Bool
  | [] => false
  | c :: _ => CharClass.word.holds scope c

/-- Whether a position satisfies the condition. In an empty text there is neither
a boundary nor a place that is none. -/
def holds : Anchor → Cursor → Bool
  | textStart, c => c.before.isEmpty
  | textEnd, c => c.after.isEmpty
  | lineStart, c => c.before.isEmpty || c.before.head? == some '\n'
  | lineEnd, c => c.after.isEmpty || c.after.head? == some '\n'
  | lastLineEnd, c => c.after.isEmpty || c.after == ['\n']
  | boundary scope negated, c =>
    !(c.before.isEmpty && c.after.isEmpty) &&
      ((wordAt scope c.before != wordAt scope c.after) != negated)

end Anchor

/-- Strips a text from the front of another, comparing up to folding. -/
def stripFolded (fold : Folding) : List Char → List Char → Bool
  | [], _ => true
  | _ :: _, [] => false
  | c :: cs, d :: ds => (fold.lower c == fold.lower d) && stripFolded fold cs ds

/-- Moves a cursor forward. -/
def Cursor.forward : Nat → Cursor → Cursor
  | 0, c => c
  | n + 1, ⟨before, a :: after, pos⟩ => forward n ⟨a :: before, after, pos + 1⟩
  | _ + 1, ⟨before, [], pos⟩ => ⟨before, [], pos⟩

/-- The text between two positions. A group in a look-around may have matched what is still
in front of the cursor. -/
def Cursor.between (c : Cursor) (start stop : Nat) : List Char :=
  ((c.before.drop (c.pos - stop)).take (min stop c.pos - start)).reverse ++
    (c.after.drop (start - c.pos)).take (stop - max start c.pos)

/-- Rounds of a repetition. `least` and `most` count the rounds that are still
required and still allowed, `last` is the position at which the previous optional
round began. -/
def repeated (body : Cursor → Marks → Continuation → Option (Cursor × Marks))
    (greedy : Bool) : Nat → Nat → Option Nat → Option Nat → Cursor → Marks → Continuation →
    Option (Cursor × Marks)
  | 0, _, _, _, c, m, k => k c m
  | fuel + 1, least + 1, most, last, c, m, k =>
    body c m fun c' m' => repeated body greedy fuel least (most.map (· - 1)) last c' m' k
  | fuel + 1, 0, most, last, c, m, k =>
    if most = some 0 || last = some c.pos then k c m
    else
      let more := fun (_ : Unit) => body c m fun c' m' =>
        repeated body greedy fuel 0 (most.map (· - 1)) (some c.pos) c' m' k
      if greedy then
        match more () with
        | some r => some r
        | none => k c m
      else
        match k c m with
        | some r => some r
        | none => more ()

namespace Pattern

/-- Tries the ways to match a pattern at a cursor, in order of preference, and
returns what the continuation makes of the first one that it accepts. -/
def run : Pattern → Cursor → Marks → Continuation → Option (Cursor × Marks)
  | empty, c, m, k => k c m
  | one test, ⟨before, after, pos⟩, m, k =>
    match after with
    | [] => none
    | a :: rest => if test.holds a then k ⟨a :: before, rest, pos + 1⟩ m else none
  | anchor a, c, m, k => if a.holds c then k c m else none
  | seq p q, c, m, k => run p c m fun c' m' => run q c' m' k
  | alt p q, c, m, k =>
    match run p c m k with
    | some r => some r
    | none => run q c m k
  | times greed least most body, c, m, k =>
    let budget := least + c.after.length + 2
    match greed with
    | .greedy => repeated (run body) true budget least most none c m k
    | .lazy => repeated (run body) false budget least most none c m k
    | .possessive =>
      match repeated (run body) true budget least most none c m fun c' m' => some (c', m') with
      | some (c', m') => k c' m'
      | none => none
  | group index body, c, m, k =>
    run body c (m.openGroup index c.pos) fun c' m' => k c' (m'.closeGroup index c'.pos)
  | again fold index, c, m, k =>
    match m.span? index with
    | none => none
    | some (start, stop) =>
      if stripFolded fold (c.between start stop) c.after then k (c.forward (stop - start)) m
      else none
  | ahead negated body, c, m, k =>
    match run body c m fun c' m' => some (c', m') with
    | some (_, m') => if negated then none else k c m'
    | none => if negated then k c m else none
  | behind negated width body, c, m, k =>
    match c.back? width with
    | none => if negated then k c m else none
    | some b =>
      match run body b m fun c' m' => some (c', m') with
      | some (_, m') => if negated then none else k c m'
      | none => if negated then k c m else none
  | atomic body, c, m, k =>
    match run body c m fun c' m' => some (c', m') with
    | some (c', m') => k c' m'
    | none => none
  | ifGroup index yes no, c, m, k =>
    if (m.span? index).isSome then run yes c m k else run no c m k

end Pattern

/-- A place where a pattern matches a text. -/
structure Match where
  /-- What stands before the match, nearest first. -/
  before : List Char
  /-- Characters before the match. -/
  start : Nat
  /-- The matched text. -/
  text : List Char
  /-- What follows the match. -/
  rest : List Char
  /-- Where the groups matched. -/
  marks : Marks
deriving Repr

namespace Match

/-- The position after the match. -/
def stop (m : Match) : Nat := m.start + m.text.length

/-- The text that a group matched; a group that took no part has none. The text
may reach beyond the match, since a group may stand in a look-around. -/
def group? (m : Match) (index : Nat) : Option (List Char) :=
  (m.marks.span? index).map fun (start, stop) =>
    if m.start ≤ start then ((m.text ++ m.rest).drop (start - m.start)).take (stop - start)
    else ((m.before.reverse ++ m.text ++ m.rest).drop start).take (stop - start)

end Match

namespace Pattern

/-- The match at a cursor, which on demand must not be empty. -/
def matchAt? (p : Pattern) (nonempty : Bool) (c : Cursor) : Option Match :=
  match p.run c [] fun c' m => if nonempty && c'.pos == c.pos then none else some (c', m) with
  | some (c', m) => some ⟨c.before, c.pos, c.after.take (c'.pos - c.pos), c'.after, m⟩
  | none => none

/-- Walks over a text and collects matches from left to right. `skip` characters
belong to the previous match. Right after an empty match there may be another one
at the same place, if it is not empty. -/
def collect (p : Pattern) (before : List Char) (pos skip : Nat) : List Char → List Match
  | [] => (p.matchAt? false ⟨before, [], pos⟩).toList
  | a :: after =>
    match skip with
    | skip + 1 => collect p (a :: before) (pos + 1) skip after
    | 0 =>
      match p.matchAt? false ⟨before, a :: after, pos⟩ with
      | none => collect p (a :: before) (pos + 1) 0 after
      | some m =>
        match m.text.length with
        | len + 1 => m :: collect p (a :: before) (pos + 1) len after
        | 0 =>
          match p.matchAt? true ⟨before, a :: after, pos⟩ with
          | none => m :: collect p (a :: before) (pos + 1) 0 after
          | some n => m :: n :: collect p (a :: before) (pos + 1) (n.text.length - 1) after

/-- All matches in a text, from left to right, none overlapping another. -/
def allIn (p : Pattern) (s : List Char) : List Match :=
  p.collect [] 0 0 s

/-- The leftmost match at or after a position. -/
def searchFrom? (p : Pattern) (before : List Char) (pos : Nat) : List Char → Option Match
  | [] => p.matchAt? false ⟨before, [], pos⟩
  | a :: after =>
    match p.matchAt? false ⟨before, a :: after, pos⟩ with
    | some m => some m
    | none => searchFrom? p (a :: before) (pos + 1) after

/-- Whether a pattern matches somewhere in a text. -/
def occursIn (p : Pattern) (s : List Char) : Bool :=
  (p.searchFrom? [] 0 s).isSome

end Pattern

end SecretScan

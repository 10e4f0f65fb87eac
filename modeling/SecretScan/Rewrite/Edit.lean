/-!
# Edits

An edit puts a text in the place of a span. Edits of one text do not overlap, so
they can be applied in one walk from left to right.
-/

namespace SecretScan.Rewrite

/-- A span of a text, its end not included, and what takes its place. -/
structure Edit where
  start : Nat
  stop : Nat
  text : List Char
deriving DecidableEq, Repr

namespace Edit

/-- Whether an edit and a span share a character. -/
def overlaps (e : Edit) (start stop : Nat) : Bool :=
  decide (start < e.stop) && decide (e.start < stop)

/-- Puts an edit in its place among edits in ascending order. -/
def insert (e : Edit) : List Edit → List Edit
  | [] => [e]
  | f :: rest => if e.start ≤ f.start then e :: f :: rest else f :: insert e rest

/-- Edits in ascending order. -/
def sort : List Edit → List Edit
  | [] => []
  | e :: rest => insert e (sort rest)

/-- Applies edits in ascending order to the part of a text that begins at `pos`. -/
def splice (pos : Nat) : List Edit → List Char → List Char
  | [], s => s
  | e :: rest, s =>
    s.take (e.start - pos) ++ e.text ++ splice e.stop rest (s.drop (e.stop - pos))

/-- Applies edits to a text. -/
def applyAll (edits : List Edit) (s : List Char) : List Char :=
  splice 0 (sort edits) s

end Edit

end SecretScan.Rewrite

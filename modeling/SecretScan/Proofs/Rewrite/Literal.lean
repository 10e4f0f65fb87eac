import SecretScan.Proofs.Pattern.Reads
import SecretScan.Rewrite.Literal

/-!
# The parts of a literal

A literal is matched by three groups and a reference back to the second one. What
they remember is what the text shows: the match is the kept part, a quote, the body
and the same quote again, and each group reads its own part (`literal_parts`).
-/

namespace SecretScan

namespace Pattern

open Cursor (Passes)

theorem stripFolded_exact {u s : List Char} (h : stripFolded .exact u s = true) :
    ∃ t, s = u ++ t := by
  induction u generalizing s with
  | nil => exact ⟨s, rfl⟩
  | cons a u ih =>
      cases s with
      | nil => simp [stripFolded] at h
      | cons b s =>
          rw [stripFolded, Bool.and_eq_true] at h
          obtain ⟨t, rfl⟩ := ih h.2
          obtain rfl : a = b := by simpa [Folding.lower] using h.1
          exact ⟨t, rfl⟩

end Pattern

namespace Rewrite

open Pattern Cursor

/-- What the groups of a literal remember that begins at a position. -/
def literalMarks (pos : Nat) (x y : List Char) : Marks :=
  [⟨prefixGroup, pos, some (pos + x.length)⟩,
   ⟨quoteGroup, pos + x.length, some (pos + x.length + 1)⟩,
   ⟨bodyGroup, pos + x.length + 1, some (pos + x.length + 1 + y.length)⟩]

theorem marks_literal (pos : Nat) (x y : List Char) :
    ((((((Marks.openGroup prefixGroup pos []).closeGroup prefixGroup (pos + x.length)).openGroup
      quoteGroup (pos + x.length)).closeGroup quoteGroup (pos + x.length + 1)).openGroup
      bodyGroup (pos + x.length + 1)).closeGroup bodyGroup (pos + x.length + 1 + y.length)) =
      literalMarks pos x y := rfl

/-- The way to match a literal: over the kept part, the quote, the body and the quote. -/
structure LiteralWay (before body : Pattern) (c : Cursor) (w : Cursor × Marks)
    (x : List Char) (q : Char) (y : List Char) : Prop where
  quote : IsQuote q
  passes : c.Passes (x ++ q :: (y ++ [q])) w.1
  marks : w.2 = literalMarks c.pos x y
  before_way : ∃ d m, c.Passes x d ∧ (d, m) ∈ ways before c m
  body_way : ∃ d e m, c.Passes (x ++ [q]) d ∧ d.Passes y e ∧ (e, m) ∈ ways body d m

/-- Behind the body, the group of the quote reads the same quote again. -/
theorem ways_again_quote {c e : Cursor} {x y : List Char} {q : Char}
    (h : c.Passes (x ++ q :: y) e) {w : Cursor × Marks} :
    w ∈ ways (again .exact quoteGroup) e (literalMarks c.pos x y) ↔
      e.Passes [q] w.1 ∧ w.2 = literalMarks c.pos x y := by
  have hspan : (literalMarks c.pos x y).span? quoteGroup =
      some (c.pos + x.length, c.pos + x.length + 1) := by
    simp [Marks.span?, literalMarks, prefixGroup, quoteGroup]
  have hbetween : e.between (c.pos + x.length) (c.pos + x.length + 1) = [q] := by
    have hdrop : e.pos - (c.pos + x.length + 1) = y.reverse.length := by
      rw [h.pos, List.length_append, List.length_cons, List.length_reverse]
      omega
    have hbefore : e.before = y.reverse ++ (q :: (x.reverse ++ c.before)) := by
      rw [h.before]
      simp
    have hreached : c.pos + x.length + 1 ≤ e.pos := by
      rw [h.pos, List.length_append, List.length_cons]
      omega
    rw [Cursor.between, hdrop, hbefore, List.drop_left, Nat.min_eq_left hreached,
      Nat.sub_eq_zero_of_le (Nat.le_trans hreached (Nat.le_max_right _ _))]
    simp
  rw [ways, hspan]
  simp only [hbetween]
  rw [show c.pos + x.length + 1 - (c.pos + x.length) = 1 by omega]
  obtain ⟨before, after, pos⟩ := e
  constructor
  · intro hw
    split at hw
    · next hstrip =>
        obtain ⟨rest, rfl⟩ := stripFolded_exact hstrip
        rw [List.mem_singleton] at hw
        rw [hw]
        exact ⟨⟨rfl, rfl, rfl⟩, rfl⟩
    · cases hw
  · rintro ⟨hpass, hmarks⟩
    obtain rfl : after = q :: w.1.after := hpass.after
    rw [if_pos (by simp [stripFolded]), List.mem_singleton]
    exact Prod.ext hpass.eq_mk hmarks

theorem ways_literal {before body : Pattern} (hbefore : before.isBare = true)
    (hbody : body.isBare = true) {c : Cursor} {w : Cursor × Marks}
    (hw : w ∈ ways (literal before body) c []) :
    ∃ x q y, LiteralWay before body c w x q y := by
  simp only [literal, ofList] at hw
  obtain ⟨w₁, hw₁, hw⟩ := List.mem_flatMap.1 (by rwa [ways] at hw)
  obtain ⟨w₂, hw₂, hw⟩ := List.mem_flatMap.1 (by rwa [ways] at hw)
  obtain ⟨w₃, hw₃, hw⟩ := List.mem_flatMap.1 (by rwa [ways] at hw)
  obtain ⟨hx, hm₁⟩ := ways_group hbefore hw₁
  obtain ⟨hq, hm₂⟩ := ways_group rfl hw₂
  obtain ⟨hy, hm₃⟩ := ways_group hbody hw₃
  obtain ⟨x, hpx⟩ := ways_passes hx
  obtain ⟨q, hquote, hpq, _⟩ := ways_quote hq
  obtain ⟨y, hpy⟩ := ways_passes hy
  have hpos₁ : w₁.1.pos = c.pos + x.length := hpx.pos
  have hpos₂ : w₂.1.pos = c.pos + x.length + 1 := hpos₁ ▸ hpq.pos
  have hpos₃ : w₃.1.pos = c.pos + x.length + 1 + y.length := hpos₂ ▸ hpy.pos
  have hmarks : w₃.2 = literalMarks c.pos x y := by
    rw [hm₃, hm₂, hm₁, hpos₃, hpos₂, hpos₁, marks_literal]
  have hfront : c.Passes (x ++ q :: y) w₃.1 := by
    have hall := (hpx.trans hpq).trans hpy
    simpa using hall
  rw [hmarks, ways_again_quote hfront] at hw
  refine ⟨x, q, y, hquote, ?_, hw.2, ⟨_, _, hpx, hx⟩, ⟨_, _, _, hpx.trans hpq, hpy, hy⟩⟩
  have hall := hfront.trans hw.1
  simpa using hall

/-- There is a way over every literal whose parts are read by the parts of the pattern. -/
theorem mem_ways_literal {before body : Pattern} (hbefore : before.isBare = true)
    (hbody : body.isBare = true) {x y : List Char} {q : Char} (hx : Reads before x)
    (hq : IsQuote q) (hy : Reads body y) {c d : Cursor} (h : c.Passes (x ++ q :: (y ++ [q])) d) :
    (d, literalMarks c.pos x y) ∈ ways (literal before body) c [] := by
  obtain ⟨e₁, hpx, h⟩ := passes_append h
  obtain ⟨e₂, hpq, h⟩ := passes_cons h
  obtain ⟨e₃, hpy, hend⟩ := passes_append h
  have hquote : Reads quote [q] := by
    refine .one ?_
    rw [holds_within_singles]
    rcases hq with rfl | rfl <;> decide
  have hfront : c.Passes (x ++ q :: y) e₃ := by
    have hall := (hpx.trans hpq).trans hpy
    simpa using hall
  have hpos₁ : e₁.pos = c.pos + x.length := hpx.pos
  have hpos₂ : e₂.pos = c.pos + x.length + 1 := hpos₁ ▸ hpq.pos
  have hpos₃ : e₃.pos = c.pos + x.length + 1 + y.length := hpos₂ ▸ hpy.pos
  refine mem_ways_seq (hx.way_group hbefore prefixGroup hpx [])
    (mem_ways_seq (hquote.way_group rfl quoteGroup hpq _)
      (mem_ways_seq (hy.way_group hbody bodyGroup hpy _) ?_))
  simp only [hpos₁, hpos₂, hpos₃, marks_literal]
  exact (ways_again_quote hfront).2 ⟨hend, rfl⟩

/-- What a match of a literal consists of, as its text and its groups show. -/
structure LiteralParts (m : Match) (x : List Char) (q : Char) (y : List Char) : Prop where
  quote : IsQuote q
  text : m.text = x ++ q :: (y ++ [q])
  before : m.group? prefixGroup = some x
  opening : m.group? quoteGroup = some [q]
  body : m.group? bodyGroup = some y

theorem literal_parts {before body : Pattern} (hbefore : before.isBare = true)
    (hbody : body.isBare = true) {s : List Char} {m : Match}
    (hm : MatchIn (literal before body) s m) :
    ∃ x q y, LiteralParts m x q y ∧
      LiteralWay before body ⟨m.before, m.text ++ m.rest, m.start⟩
        (⟨m.text.reverse ++ m.before, m.rest, m.stop⟩, m.marks) x q y := by
  obtain ⟨x, q, y, h⟩ := ways_literal hbefore hbody hm.way
  have htext : m.text = x ++ q :: (y ++ [q]) := List.append_cancel_right h.passes.after
  have hmarks : m.marks = literalMarks m.start x y := h.marks
  have hgroup : ∀ {g a b : Nat}, m.marks.span? g = some (m.start + a, m.start + b) →
      m.group? g = some (((m.text ++ m.rest).drop a).take (b - a)) := by
    intro g a b hspan
    rw [Match.group?, hspan, Option.map_some]
    simp only [if_pos (Nat.le_add_right m.start a)]
    rw [show m.start + a - m.start = a by omega,
      show m.start + b - (m.start + a) = b - a by omega]
  refine ⟨x, q, y, ⟨h.quote, htext, ?_, ?_, ?_⟩, h⟩
  · rw [hgroup (a := 0) (b := x.length) (by
      rw [hmarks]; simp [Marks.span?, literalMarks, prefixGroup]), htext]
    simp
  · rw [hgroup (a := x.length) (b := x.length + 1) (by
      rw [hmarks]
      simp [Marks.span?, literalMarks, prefixGroup, quoteGroup, Nat.add_assoc]), htext]
    simp
  · rw [hgroup (a := x.length + 1) (b := x.length + 1 + y.length) (by
      rw [hmarks]
      simp [Marks.span?, literalMarks, prefixGroup, quoteGroup, bodyGroup, Nat.add_assoc]), htext]
    rw [show x ++ q :: (y ++ [q]) ++ m.rest = (x ++ [q]) ++ (y ++ ([q] ++ m.rest)) by simp]
    rw [List.drop_append_of_le_length (by simp), List.drop_of_length_le (by simp)]
    simp

/-- Every pattern that is rewritten is a literal, and its parts have no groups. -/
theorem literals_shape {rule : String} {pattern : Pattern} (h : (rule, pattern) ∈ literals) :
    ∃ before body, pattern = literal before body ∧ before.isBare = true ∧
      body.isBare = true := by
  simp only [literals, List.mem_cons, Prod.mk.injEq, List.not_mem_nil, or_false] at h
  rcases h with ⟨-, rfl⟩ | ⟨-, rfl⟩ | ⟨-, rfl⟩ | ⟨-, rfl⟩
  · exact ⟨_, _, rfl, by decide, by decide⟩
  · exact ⟨_, _, rfl, by decide, by decide⟩
  · exact ⟨_, _, rfl, by decide, by decide⟩
  · exact ⟨_, _, rfl, by decide, by decide⟩

end Rewrite

end SecretScan

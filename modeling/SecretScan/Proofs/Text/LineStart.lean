import SecretScan.Proofs.Text.Search
import SecretScan.Rewrite.Content

/-!
# Where lines begin

The rewriter finds the place of a finding again from the number of its line. It lists
the positions at which lines begin; here that list is tied to the text itself: the
`k`-th position has `k` line feeds before it, and stands at the very beginning or
right behind a line feed.
-/

namespace SecretScan

namespace Text

/-- The line that has `k` lines before it begins at a position. -/
structure LineStart (s : List Char) (k pos : Nat) : Prop where
  inside : pos ≤ s.length
  count : (s.take pos).count '\n' = k
  behind : pos = 0 ∨ s[pos - 1]? = some '\n'

theorem LineStart.zero (s : List Char) : LineStart s 0 0 := ⟨Nat.zero_le _, rfl, Or.inl rfl⟩

/-- A line that begins in the rest of a text begins in the text. -/
theorem LineStart.cons {s : List Char} {k pos : Nat} (c : Char) (h : LineStart s k (pos + 1)) :
    LineStart (c :: s) (k + if c = '\n' then 1 else 0) (pos + 2) where
  inside := by have := h.inside; simp only [List.length_cons]; omega
  count := by
    have := h.count
    rw [List.take_succ_cons, List.count_cons, this]
    simp
  behind := by
    rcases h.behind with h | h
    · omega
    · exact Or.inr (by simpa using h)

/-- Between two beginnings of lines stands a line feed. -/
theorem LineStart.lt {s : List Char} {j k a b : Nat} (ha : LineStart s j a)
    (hb : LineStart s k b) (h : a < b) : j < k := by
  have hbreak : s[b - 1]? = some '\n' := hb.behind.resolve_left (by omega)
  have hmem : '\n' ∈ (s.drop a).take (b - a) := by
    refine List.mem_of_getElem? (i := b - 1 - a) ?_
    rw [List.getElem?_take_of_lt (by omega), List.getElem?_drop, ← hbreak]
    congr 1
    omega
  have hcount := hb.count
  rw [show b = a + (b - a) by omega, List.take_add, List.count_append, ha.count] at hcount
  have := List.count_pos_iff.2 hmem
  omega

theorem LineStart.unique {s : List Char} {k a b : Nat} (ha : LineStart s k a)
    (hb : LineStart s k b) : a = b := by
  rcases Nat.lt_trichotomy a b with h | h | h
  · exact absurd (ha.lt hb h) (Nat.lt_irrefl k)
  · exact h
  · exact absurd (hb.lt ha h) (Nat.lt_irrefl k)

theorem lines_cons_ne {c : Char} (hc : c ≠ '\n') {s line : List Char} {rest : List (List Char)}
    (h : lines s = line :: rest) : lines (c :: s) = (c :: line) :: rest :=
  splitAt_append (w := [c]) (by simpa using Ne.symm hc) h

/-- What has no line feed goes in front of the first line. -/
theorem lines_append {w : List Char} (hw : '\n' ∉ w) {s line : List Char}
    {rest : List (List Char)} (h : lines s = line :: rest) :
    lines (w ++ s) = (w ++ line) :: rest :=
  splitAt_append hw h

theorem lines_break {w : List Char} (hw : '\n' ∉ w) (s : List Char) :
    lines (w ++ '\n' :: s) = w :: lines s :=
  splitAt_break hw s

end Text

namespace Rewrite

open Text

/-- The first line of a text begins with the text. -/
theorem lineStarts_lines (pos : Nat) (s : List Char) :
    ∃ starts, lineStarts pos (lines s) = pos :: starts := by
  rw [lines]
  cases h : splitAt '\n' s with
  | nil => exact absurd h (splitAt_ne_nil _ s)
  | cons part parts => exact ⟨_, rfl⟩

theorem lineStarts_break (pos : Nat) (s : List Char) :
    lineStarts pos (lines ('\n' :: s)) = pos :: lineStarts (pos + 1) (lines s) := by
  rw [lines, splitAt, if_pos rfl, lineStarts, lines]
  rfl

theorem lineStarts_tail {c : Char} (hc : c ≠ '\n') (pos : Nat) (s : List Char) :
    (lineStarts pos (lines (c :: s))).tail = (lineStarts (pos + 1) (lines s)).tail := by
  obtain ⟨part, parts, h, h'⟩ := splitAt_cons_ne hc s
  rw [lines, h', lines, h, lineStarts, lineStarts, List.tail_cons, List.tail_cons,
    List.length_cons, show pos + (part.length + 1) + 1 = pos + 1 + part.length + 1 by omega]

/-- The list of positions holds the beginnings of the lines, line by line. -/
theorem lineStart_of_getElem? {s : List Char} : ∀ {pos k a : Nat},
    (lineStarts pos (lines s))[k]? = some a → ∃ n, a = pos + n ∧ LineStart s k n := by
  induction s with
  | nil =>
      intro pos k a h
      cases k with
      | zero =>
          obtain rfl : pos = a := by simpa [lines, splitAt, lineStarts] using h
          exact ⟨0, rfl, LineStart.zero _⟩
      | succ k => simp [lines, splitAt, lineStarts] at h
  | cons c s ih =>
      intro pos k a h
      cases k with
      | zero =>
          obtain ⟨starts, hs⟩ := lineStarts_lines pos (c :: s)
          obtain rfl : pos = a := by simpa [hs] using h
          exact ⟨0, rfl, LineStart.zero _⟩
      | succ k =>
          by_cases hc : c = '\n'
          · subst hc
            rw [lineStarts_break, List.getElem?_cons_succ] at h
            obtain ⟨n, rfl, hn⟩ := ih h
            refine ⟨n + 1, by omega, ?_⟩
            cases n with
            | zero =>
                have hk := hn.count
                refine ⟨by simp, ?_, Or.inr rfl⟩
                rw [List.take_zero, List.count_nil] at hk
                subst hk
                rfl
            | succ n => simpa using hn.cons '\n'
          · rw [← List.getElem?_tail, lineStarts_tail hc, List.getElem?_tail] at h
            obtain ⟨n, rfl, hn⟩ := ih h
            refine ⟨n + 1, by omega, ?_⟩
            cases n with
            | zero => have := hn.count; simp at this
            | succ n => simpa [hc] using hn.cons c

end Rewrite

end SecretScan

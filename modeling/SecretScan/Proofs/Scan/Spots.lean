import SecretScan.Proofs.Pattern.Spots
import SecretScan.Proofs.Text.LineStart

/-!
# Where a text is matched, line by line

A scan looks at one line after another. `textSpots` puts what it finds at positions in the
text as a whole, so that two texts can be compared that do not even have the same lines. A
line feed cuts a text in two, and so does a character that the pattern shuns
(`textSpots_cut`); and a stretch in which no match can start may as well be left out
(`textSpots_barren`).
-/

namespace SecretScan.Pattern

open Text

/-- Where lines are matched, and what is matched there, if the first one begins at `pos`. -/
def lineSpots (p : Pattern) (pos : Nat) : List (List Char) → List (Nat × List Char)
  | [] => []
  | line :: rest =>
    moved pos (spots (p.allIn line)) ++ lineSpots p (pos + line.length + 1) rest

/-- Where the lines of a text are matched, and what is matched there, if the text begins at
`pos`. -/
def textSpots (p : Pattern) (pos : Nat) (s : List Char) : List (Nat × List Char) :=
  lineSpots p pos (lines s)

theorem moved_moved (m n : Nat) (l : List (Nat × List Char)) :
    moved m (moved n l) = moved (n + m) l := by
  simp [moved, Nat.add_assoc]

@[simp]
theorem moved_append (n : Nat) (l l' : List (Nat × List Char)) :
    moved n (l ++ l') = moved n l ++ moved n l' := List.map_append

theorem mem_spots {p : Pattern} {s : List Char} {x : Nat × List Char} :
    x ∈ spots (p.allIn s) ↔ ∃ m ∈ p.allIn s, x = (m.start, m.text) := by
  simp only [spots, List.mem_map, eq_comm]

section Lines

variable {p : Pattern}

theorem textSpots_lines {s line : List Char} {rest : List (List Char)}
    (h : lines s = line :: rest) (pos : Nat) :
    textSpots p pos s =
      moved pos (spots (p.allIn line)) ++ lineSpots p (pos + line.length + 1) rest := by
  rw [textSpots, h, lineSpots]

theorem exists_lines (s : List Char) : ∃ line rest, lines s = line :: rest := by
  cases h : lines s with
  | nil => exact absurd h (splitAt_ne_nil _ s)
  | cons line rest => exact ⟨line, rest, rfl⟩

theorem textSpots_single {w : List Char} (hw : '\n' ∉ w) (pos : Nat) :
    textSpots p pos w = moved pos (spots (p.allIn w)) := by
  have h := lines_append hw (show lines [] = [[]] from rfl)
  rw [List.append_nil] at h
  rw [textSpots_lines h, lineSpots, List.append_nil]

theorem textSpots_break {w : List Char} (hw : '\n' ∉ w) (s : List Char) (pos : Nat) :
    textSpots p pos (w ++ '\n' :: s) =
      textSpots p pos w ++ textSpots p (pos + w.length + 1) s := by
  rw [textSpots_lines (lines_break hw s), textSpots_single hw, textSpots]

end Lines

/-- What is matched stands in the text at the place that goes with it. -/
theorem textSpots_occurs {p : Pattern} {a : Nat} {w : List Char} : ∀ {s : List Char} {pos : Nat},
    (a, w) ∈ textSpots p pos s → ∃ u v, s = u ++ (w ++ v) ∧ a = pos + u.length ∧ '\n' ∉ w := by
  intro s
  induction hlen : s.length using Nat.strongRecOn generalizing s with
  | ind n ih =>
      intro pos h
      by_cases hbreak : '\n' ∈ s
      · obtain ⟨line, rest, rfl, hline⟩ := List.eq_append_cons_of_mem hbreak
        rw [textSpots_break hline] at h
        rw [List.length_append, List.length_cons] at hlen
        rcases List.mem_append.1 h with h | h
        · obtain ⟨u, v, rfl, ha, hw⟩ := ih line.length (by omega) rfl h
          exact ⟨u, v ++ '\n' :: rest, by simp, ha, hw⟩
        · obtain ⟨u, v, rfl, ha, hw⟩ := ih rest.length (by omega) rfl h
          refine ⟨line ++ '\n' :: u, v, by simp, ?_, hw⟩
          rw [ha, List.length_append, List.length_cons]
          omega
      · rw [textSpots_single hbreak] at h
        obtain ⟨x, hx, heq⟩ := List.mem_map.1 h
        obtain ⟨m, hm, rfl⟩ := mem_spots.1 hx
        obtain ⟨rfl, rfl⟩ := Prod.mk.inj heq
        have hin := allIn_matchIn hm
        refine ⟨m.before.reverse, m.rest, hin.text_eq, ?_, ?_⟩
        · rw [List.length_reverse, ← hin.start_eq, Nat.add_comm]
        · intro hw
          rw [hin.text_eq] at hbreak
          exact hbreak (by simp [hw])

theorem mem_lineSpots {p : Pattern} {x : Nat × List Char} : ∀ {ls : List (List Char)} {pos : Nat},
    x ∈ lineSpots p pos ls ↔ ∃ (k n : Nat) (line : List Char),
      (Rewrite.lineStarts pos ls)[k]? = some n ∧ ls[k]? = some line ∧
        ∃ m ∈ p.allIn line, x = (n + m.start, m.text) := by
  intro ls
  induction ls with
  | nil => simp [lineSpots]
  | cons line rest ih =>
      intro pos
      rw [lineSpots, List.mem_append, ih]
      constructor
      · rintro (h | ⟨k, n, line', hn, hline, h⟩)
        · obtain ⟨y, hy, rfl⟩ := List.mem_map.1 h
          obtain ⟨m, hm, rfl⟩ := mem_spots.1 hy
          exact ⟨0, pos, line, rfl, rfl, m, hm, by rw [Nat.add_comm]⟩
        · exact ⟨k + 1, n, line', hn, hline, h⟩
      · rintro ⟨k, n, line', hn, hline, m, hm, rfl⟩
        cases k with
        | zero =>
            obtain rfl : pos = n := by simpa [Rewrite.lineStarts] using hn
            obtain rfl : line = line' := by simpa using hline
            refine Or.inl (List.mem_map.2 ⟨_, mem_spots.2 ⟨m, hm, rfl⟩, ?_⟩)
            rw [Nat.add_comm]
        | succ k => exact Or.inr ⟨k, n, line', hn, hline, m, hm, rfl⟩

theorem lineSpots_moved (p : Pattern) (n : Nat) : ∀ (ls : List (List Char)) (pos : Nat),
    lineSpots p (pos + n) ls = moved n (lineSpots p pos ls) := by
  intro ls
  induction ls with
  | nil => intro pos; rfl
  | cons line rest ih =>
      intro pos
      rw [lineSpots, lineSpots, moved_append, moved_moved, ← ih,
        show pos + n + line.length + 1 = pos + line.length + 1 + n by omega]

/-- What is matched in a text does not depend on the position at which it begins. -/
theorem textSpots_anywhere {p : Pattern} {s w : List Char} {a pos : Nat}
    (h : (a, w) ∈ textSpots p pos s) (pos' : Nat) : ∃ a', (a', w) ∈ textSpots p pos' s := by
  have hzero := lineSpots_moved p pos (lines s) 0
  have hzero' := lineSpots_moved p pos' (lines s) 0
  rw [textSpots, ← Nat.zero_add pos, hzero] at h
  obtain ⟨x, hx, heq⟩ := List.mem_map.1 h
  obtain ⟨-, rfl⟩ := Prod.mk.inj heq
  rw [Nat.zero_add] at hzero'
  refine ⟨x.1 + pos', ?_⟩
  rw [textSpots, hzero']
  exact List.mem_map.2 ⟨x, hx, rfl⟩

/-- What is matched was consumed on some way. -/
theorem textSpots_way {p : Pattern} {s w : List Char} {a pos : Nat}
    (h : (a, w) ∈ textSpots p pos s) :
    ∃ (c : Cursor) (v : Cursor × Marks), v ∈ ways p c [] ∧ c.Passes w v.1 := by
  obtain ⟨k, n, line, -, -, m, hm, heq⟩ := mem_lineSpots.1 h
  obtain ⟨-, rfl⟩ := Prod.mk.inj heq
  have hin := allIn_matchIn hm
  exact ⟨_, _, hin.way, rfl, rfl, rfl⟩

/-- A text over an alphabet is not matched, if something else is needed. -/
theorem textSpots_needs {p : Pattern} {alphabet : List Char} (hp : p.needs alphabet = true)
    {s : List Char} (hs : ∀ c ∈ s, c ∈ alphabet) {pos : Nat} : textSpots p pos s = [] := by
  refine List.eq_nil_iff_forall_not_mem.2 fun x hx => ?_
  obtain ⟨a, w⟩ := x
  obtain ⟨u, v, rfl, -, -⟩ := textSpots_occurs hx
  obtain ⟨c, d, hd, hpass⟩ := textSpots_way hx
  obtain ⟨w', hw', b, hb, hout⟩ := needs_passes hp d hd
  have heq : w' = w := hw'.take_eq.symm.trans hpass.take_eq
  rw [heq] at hb
  exact hout (hs b (by simp [hb]))

section Cut

variable {edges : Bool} {bad : List Char} {p : Pattern}

/-- A text is cut in two by a line feed, or by a character that the pattern shuns. -/
theorem textSpots_cut (hp : p.shuns edges bad = true) (heats : p.eats = true) {b : Char}
    (hb : b = '\n' ∨ (b ∈ bad ∧ (edges = true → Text.isWord b = false))) (u v : List Char)
    (pos : Nat) :
    textSpots p pos (u ++ b :: v) =
      textSpots p pos u ++ textSpots p (pos + u.length + 1) v := by
  -- the part of `u` behind its last line feed takes part in the line that is cut
  have hcut : ∀ (u w : List Char) (pos : Nat), '\n' ∉ w →
      textSpots p pos (w ++ (u ++ b :: v)) =
        textSpots p pos (w ++ u) ++ textSpots p (pos + w.length + u.length + 1) v := by
    intro u
    induction u with
    | nil =>
        intro w pos hw
        rw [List.nil_append, List.append_nil, List.length_nil, Nat.add_zero]
        by_cases hbreak : b = '\n'
        · rw [hbreak, textSpots_break hw]
        · obtain ⟨hbad, hword⟩ := hb.resolve_left hbreak
          obtain ⟨line, rest, hline⟩ := exists_lines v
          have hlines := lines_append hw (lines_cons_ne hbreak hline)
          rw [textSpots_lines hlines, textSpots_single hw, textSpots_lines hline,
            spots_cut hp heats hbad hword, moved_append, moved_moved, List.append_assoc,
            List.length_append, List.length_cons,
            show w.length + 1 + pos = pos + w.length + 1 by omega,
            show pos + (w.length + (line.length + 1)) + 1
              = pos + w.length + 1 + line.length + 1 by omega]
    | cons c u ih =>
        intro w pos hw
        by_cases hc : c = '\n'
        · subst hc
          have h := ih [] (pos + w.length + 1) (by simp)
          rw [List.nil_append, List.nil_append, List.length_nil, Nat.add_zero] at h
          rw [List.cons_append, textSpots_break hw, textSpots_break hw, h, List.append_assoc,
            List.length_cons, show pos + w.length + 1 + u.length + 1
              = pos + w.length + (u.length + 1) + 1 by omega]
        · have hw' : '\n' ∉ w ++ [c] := by simp [hw, Ne.symm hc]
          have h := ih (w ++ [c]) pos hw'
          rw [List.append_assoc, List.append_assoc, List.length_append, List.length_singleton] at h
          rw [List.cons_append, List.length_cons, show pos + w.length + (u.length + 1) + 1
            = pos + (w.length + 1) + u.length + 1 by omega]
          exact h
  have h := hcut u [] pos (by simp)
  rwa [List.nil_append, List.nil_append, List.length_nil, Nat.add_zero] at h

theorem textSpots_nil (hp : p.shuns edges bad = true) (heats : p.eats = true) (pos : Nat) :
    textSpots p pos [] = [] := by
  rw [textSpots_single (by simp), allIn, collect_nil hp heats]
  rfl

/-- No match starts inside a text, whatever stands around it. -/
def Barren (p : Pattern) (y : List Char) : Prop :=
  ∀ c y', (c :: y') <:+ y → ∀ before z pos, p.matchAt? false ⟨before, c :: (y' ++ z), pos⟩ = none

theorem Barren.tail {c : Char} {y : List Char} (h : Barren p (c :: y)) : Barren p y := by
  intro d y' hsuffix
  exact h d y' (hsuffix.trans (List.suffix_cons c y))

/-- A stretch in which no match starts may be left out, where edges of words play no part. -/
theorem textSpots_barren (hp : p.shuns false bad = true) (heats : p.eats = true) {y : List Char}
    (hy : Barren p y) (hbreak : '\n' ∉ y) (v : List Char) (pos : Nat) :
    textSpots p pos (y ++ v) = textSpots p (pos + y.length) v := by
  induction y generalizing pos with
  | nil => rfl
  | cons c y ih =>
      rw [List.mem_cons, not_or] at hbreak
      obtain ⟨line, rest, hline⟩ := exists_lines v
      have hlines := lines_append hbreak.2 hline
      have hnone := hy c y (List.suffix_refl _) [] line 0
      have hcollect := spots_collect hp heats (Stops.nil bad) 1 (y ++ line) [c] [] 0 0 (by simp)
        (Nat.zero_le _)
      rw [collect_nil hp heats, List.append_nil] at hcollect
      have hrest := ih hy.tail hbreak.2 (pos + 1)
      rw [textSpots_lines hlines] at hrest
      rw [Nat.zero_add, show spots [] = [] from rfl, List.append_nil] at hcollect
      rw [List.cons_append, textSpots_lines (lines_cons_ne (Ne.symm hbreak.1) hlines), allIn,
        collect_cons heats, hnone]
      simp only [Nat.zero_add]
      rw [hcollect, moved_moved, List.length_cons, List.length_cons, Nat.add_comm 1 pos,
        show pos + ((y ++ line).length + 1) + 1 = pos + 1 + (y ++ line).length + 1 by omega,
        show pos + (y.length + 1) = pos + 1 + y.length by omega, ← hrest, allIn]

end Cut

end SecretScan.Pattern

import SecretScan.Proofs.Pattern.Ways

/-!
# Where matches stand

A way to match moves the cursor over some text and does nothing else to it: that is
`Passes`, and `ways_passes` proves it for every pattern, look-arounds and references
to groups included. So a match that is found in a text stands there, between what is
before it and what follows, and the matches that `allIn` collects come from left to
right and do not overlap.
-/

namespace SecretScan

namespace Cursor

/-- One cursor is another one moved over a text. -/
structure Passes (c : Cursor) (u : List Char) (d : Cursor) : Prop where
  after : c.after = u ++ d.after
  before : d.before = u.reverse ++ c.before
  pos : d.pos = c.pos + u.length

namespace Passes

theorem refl (c : Cursor) : c.Passes [] c := ⟨rfl, rfl, rfl⟩

theorem trans {c d e : Cursor} {u v : List Char} (h : c.Passes u d) (h' : d.Passes v e) :
    c.Passes (u ++ v) e where
  after := by rw [h.after, h'.after, List.append_assoc]
  before := by rw [h'.before, h.before, List.reverse_append, List.append_assoc]
  pos := by rw [h'.pos, h.pos, List.length_append]; omega

theorem eq_mk {c d : Cursor} {u : List Char} (h : c.Passes u d) :
    d = ⟨u.reverse ++ c.before, d.after, c.pos + u.length⟩ := by
  obtain ⟨before, after, pos⟩ := d
  obtain ⟨_, hb, hp⟩ := h
  simp only at hb hp
  rw [hb, hp]

/-- What was passed is settled by how far the cursor came. -/
theorem take_eq {c d : Cursor} {u : List Char} (h : c.Passes u d) :
    c.after.take (d.pos - c.pos) = u := by
  rw [h.after, h.pos, Nat.add_sub_cancel_left, List.take_left]

end Passes

theorem forward_passes (n : Nat) (c : Cursor) : ∃ u, c.Passes u (c.forward n) := by
  induction n generalizing c with
  | zero => exact ⟨[], Passes.refl c⟩
  | succ n ih =>
      obtain ⟨before, after, pos⟩ := c
      cases after with
      | nil => exact ⟨[], Passes.refl _⟩
      | cons a after =>
          obtain ⟨u, h⟩ := ih ⟨a :: before, after, pos + 1⟩
          have h₁ : Passes ⟨before, a :: after, pos⟩ [a] ⟨a :: before, after, pos + 1⟩ :=
            ⟨rfl, rfl, rfl⟩
          exact ⟨[a] ++ u, h₁.trans h⟩

end Cursor

namespace Pattern

open Cursor (Passes)

/-- Whatever the ways to match a body keep, the rounds of its repetition keep: they go
through such ways, one after another. -/
theorem mem_rounds {R : Cursor × Marks → Cursor × Marks → Prop} (hrefl : ∀ w, R w w)
    (htrans : ∀ {u v w}, R u v → R v w → R u w)
    {body : Cursor → Marks → List (Cursor × Marks)}
    (hbody : ∀ c m, ∀ w ∈ body c m, R (c, m) w) (greedy : Bool) :
    ∀ (fuel least : Nat) (most last : Option Nat) (c : Cursor) (m : Marks),
      ∀ w ∈ rounds body greedy fuel least most last c m, R (c, m) w := by
  intro fuel
  induction fuel with
  | zero =>
      intro least most last c m w hw
      rw [rounds, List.mem_singleton] at hw
      exact hw ▸ hrefl _
  | succ fuel ih =>
      have hmore : ∀ least most last (c : Cursor) (m : Marks), ∀ w ∈ (body c m).flatMap
          (fun v => rounds body greedy fuel least most last v.1 v.2), R (c, m) w := by
        intro least most last c m w hw
        obtain ⟨v, hv, hw⟩ := List.mem_flatMap.1 hw
        exact htrans (hbody c m v hv) (ih least most last v.1 v.2 w hw)
      intro least most last c m w hw
      cases least with
      | succ least =>
          rw [rounds] at hw
          exact hmore _ _ _ c m w hw
      | zero =>
          rw [rounds] at hw
          split at hw
          · rw [List.mem_singleton] at hw
            exact hw ▸ hrefl _
          · simp only [] at hw
            split at hw
            · rcases List.mem_append.1 hw with hw | hw
              · exact hmore _ _ _ c m w hw
              · rw [List.mem_singleton] at hw
                exact hw ▸ hrefl _
            · rcases List.mem_cons.1 hw with hw | hw
              · exact hw ▸ hrefl _
              · exact hmore _ _ _ c m w hw

theorem rounds_passes {body : Cursor → Marks → List (Cursor × Marks)}
    (hbody : ∀ c m, ∀ w ∈ body c m, ∃ u, Passes c u w.1) (greedy : Bool) (fuel least : Nat)
    (most last : Option Nat) {c : Cursor} {m : Marks} {w : Cursor × Marks}
    (hw : w ∈ rounds body greedy fuel least most last c m) : ∃ u, Passes c u w.1 :=
  mem_rounds (R := fun v w => ∃ u, Passes v.1 u w.1) (fun w => ⟨[], Passes.refl w.1⟩)
    (fun ⟨u, hu⟩ ⟨u', hu'⟩ => ⟨u ++ u', hu.trans hu'⟩) hbody greedy fuel least most last c m w hw

/-- The ways to match a repetition are among its rounds, taken greedily or not. -/
theorem mem_rounds_of_times {greed : Greed} {least : Nat} {most : Option Nat} {body : Pattern}
    {c : Cursor} {m : Marks} {w : Cursor × Marks}
    (hw : w ∈ ways (times greed least most body) c m) :
    ∃ greedy, w ∈ rounds (ways body) greedy (least + c.after.length + 2) least most none c m := by
  cases greed with
  | greedy => exact ⟨true, by simpa only [ways] using hw⟩
  | lazy => exact ⟨false, by simpa only [ways] using hw⟩
  | possessive => exact ⟨true, List.mem_of_mem_take (by simpa only [ways] using hw)⟩

/-- What the ways to match a body keep, the ways to match its repetition keep. -/
theorem mem_ways_times {R : Cursor × Marks → Cursor × Marks → Prop} (hrefl : ∀ w, R w w)
    (htrans : ∀ {u v w}, R u v → R v w → R u w) {body : Pattern}
    (hbody : ∀ c m, ∀ w ∈ ways body c m, R (c, m) w) {greed : Greed} {least : Nat}
    {most : Option Nat} {c : Cursor} {m : Marks} {w : Cursor × Marks}
    (hw : w ∈ ways (times greed least most body) c m) : R (c, m) w := by
  obtain ⟨greedy, hw⟩ := mem_rounds_of_times hw
  exact mem_rounds hrefl @htrans hbody greedy _ _ _ _ _ _ w hw

theorem guarded_passes {negated : Bool} {c : Cursor} {m : Marks}
    {ws : List (Cursor × Marks)} {w : Cursor × Marks} (hw : w ∈ guarded negated c m ws) :
    Passes c [] w.1 := by
  unfold guarded at hw
  split at hw <;> split at hw
  · rw [List.mem_singleton] at hw; exact hw ▸ Passes.refl c
  · cases hw
  · cases hw
  · rw [List.mem_singleton] at hw; exact hw ▸ Passes.refl c

/-- A way to match moves the cursor over some text. -/
theorem ways_passes {p : Pattern} : ∀ {c : Cursor} {m : Marks} {w : Cursor × Marks},
    w ∈ ways p c m → ∃ u, Passes c u w.1 := by
  induction p with
  | empty =>
      intro c m w hw
      rw [ways, List.mem_singleton] at hw
      exact ⟨[], hw ▸ Passes.refl c⟩
  | one test =>
      intro c m w hw
      obtain ⟨before, after, pos⟩ := c
      cases after with
      | nil => simp [ways] at hw
      | cons a rest =>
          simp only [ways] at hw
          split at hw
          · rw [List.mem_singleton] at hw
            exact ⟨[a], hw ▸ ⟨rfl, rfl, rfl⟩⟩
          · cases hw
  | anchor a =>
      intro c m w hw
      rw [ways] at hw
      split at hw
      · rw [List.mem_singleton] at hw
        exact ⟨[], hw ▸ Passes.refl c⟩
      · cases hw
  | seq p q ihp ihq =>
      intro c m w hw
      obtain ⟨v, hv, hw⟩ := List.mem_flatMap.1 (by rwa [ways] at hw)
      obtain ⟨u, hu⟩ := ihp hv
      obtain ⟨u', hu'⟩ := ihq hw
      exact ⟨u ++ u', hu.trans hu'⟩
  | alt p q ihp ihq =>
      intro c m w hw
      rw [ways] at hw
      exact (List.mem_append.1 hw).elim ihp ihq
  | times greed least most body ih =>
      intro c m w hw
      refine mem_ways_times (R := fun v w => ∃ u, Passes v.1 u w.1)
        (fun w => ⟨[], Passes.refl w.1⟩) ?_ (fun c m w hw => ih hw) hw
      rintro _ _ _ ⟨u, hu⟩ ⟨u', hu'⟩
      exact ⟨u ++ u', hu.trans hu'⟩
  | group index body ih =>
      intro c m w hw
      obtain ⟨v, hv, rfl⟩ := List.mem_map.1 (by rwa [ways] at hw)
      obtain ⟨u, hu⟩ := ih hv
      exact ⟨u, hu⟩
  | again fold index =>
      intro c m w hw
      rw [ways] at hw
      split at hw
      · cases hw
      · split at hw
        · rw [List.mem_singleton] at hw
          obtain ⟨u, hu⟩ := Cursor.forward_passes _ c
          exact ⟨u, hw ▸ hu⟩
        · cases hw
  | ahead negated body ih =>
      intro c m w hw
      rw [ways] at hw
      exact ⟨[], guarded_passes hw⟩
  | behind negated width body ih =>
      intro c m w hw
      rw [ways] at hw
      split at hw <;> exact ⟨[], guarded_passes hw⟩
  | atomic body ih =>
      intro c m w hw
      rw [ways] at hw
      exact ih (List.mem_of_mem_take hw)
  | ifGroup index yes no ihy ihn =>
      intro c m w hw
      rw [ways] at hw
      split at hw
      · exact ihy hw
      · exact ihn hw

/-! ## The match at a cursor -/

/-- The match that a way amounts to. -/
def matchOf (c : Cursor) (w : Cursor × Marks) : Match :=
  ⟨c.before, c.pos, c.after.take (w.1.pos - c.pos), w.1.after, w.2⟩

/-- The match at a cursor is the preferred way among those that will do. -/
theorem matchAt?_eq (p : Pattern) (nonempty : Bool) (c : Cursor) :
    p.matchAt? nonempty c =
      ((ways p c []).find? fun w => !(nonempty && w.1.pos == c.pos)).map (matchOf c) := by
  have hfind : ∀ l : List (Cursor × Marks),
      (l.findSome? fun w => if nonempty && w.1.pos == c.pos then none else some (w.1, w.2))
        = l.find? fun w => !(nonempty && w.1.pos == c.pos) := by
    intro l
    induction l with
    | nil => rfl
    | cons w l ih =>
        rw [List.findSome?_cons, List.find?_cons]
        cases nonempty && w.1.pos == c.pos
        · rfl
        · exact ih
  rw [matchAt?, run_eq_findSome?, hfind]
  cases (ways p c []).find? _ <;> rfl

/-- A match of a pattern in a text: it stands between what is before it and what
follows, and it is one of the ways to match there. -/
structure MatchIn (p : Pattern) (s : List Char) (m : Match) : Prop where
  text_eq : s = m.before.reverse ++ (m.text ++ m.rest)
  start_eq : m.start = m.before.length
  way : (⟨m.text.reverse ++ m.before, m.rest, m.stop⟩, m.marks) ∈
    p.ways ⟨m.before, m.text ++ m.rest, m.start⟩ []

theorem MatchIn.stop_le {p : Pattern} {s : List Char} {m : Match} (h : MatchIn p s m) :
    m.stop ≤ s.length := by
  rw [h.text_eq, Match.stop, h.start_eq]
  simp only [List.length_append, List.length_reverse]
  omega

theorem matchAt?_matchIn {p : Pattern} {nonempty : Bool} {before after : List Char}
    {m : Match} (h : p.matchAt? nonempty ⟨before, after, before.length⟩ = some m) :
    MatchIn p (before.reverse ++ after) m ∧ m.start = before.length ∧
      (nonempty = true → m.text ≠ []) := by
  rw [matchAt?_eq] at h
  obtain ⟨w, hw, rfl⟩ := Option.map_eq_some_iff.1 h
  have hmem := List.mem_of_find?_eq_some hw
  have hok := List.find?_some hw
  obtain ⟨u, hu⟩ := ways_passes hmem
  have htext : (matchOf ⟨before, after, before.length⟩ w).text = u := hu.take_eq
  refine ⟨⟨?_, rfl, ?_⟩, rfl, ?_⟩
  · rw [htext]
    exact congrArg (before.reverse ++ ·) hu.after
  · have hafter : after = u ++ w.1.after := hu.after
    have hcur : (⟨u.reverse ++ before, w.1.after, before.length + u.length⟩, w.2) = w :=
      Prod.ext hu.eq_mk.symm rfl
    rw [Match.stop, htext]
    show (⟨u.reverse ++ before, w.1.after, before.length + u.length⟩, w.2) ∈
      p.ways ⟨before, u ++ w.1.after, before.length⟩ []
    rw [← hafter, hcur]
    exact hmem
  · rintro rfl
    rw [htext]
    rintro rfl
    have hpos := hu.pos
    simp [hpos] at hok

/-! ## All matches in a text -/

/-- Matches in a text that come from left to right and do not overlap, the first of
them not before a place. -/
structure Gathered (p : Pattern) (s : List Char) (lo : Nat) (l : List Match) : Prop where
  sound : ∀ m ∈ l, MatchIn p s m ∧ lo ≤ m.start
  ordered : l.Pairwise fun m n => m.stop ≤ n.start

namespace Gathered

variable {p : Pattern} {s : List Char} {lo lo' : Nat} {m : Match} {l : List Match}

theorem nil : Gathered p s lo [] := ⟨by simp, List.Pairwise.nil⟩

theorem mono (h : Gathered p s lo l) (hle : lo' ≤ lo) : Gathered p s lo' l :=
  ⟨fun m hm => ⟨(h.sound m hm).1, Nat.le_trans hle (h.sound m hm).2⟩, h.ordered⟩

theorem cons (hm : MatchIn p s m) (hlo : lo ≤ m.start) (h : Gathered p s m.stop l) :
    Gathered p s lo (m :: l) := by
  refine ⟨?_, List.pairwise_cons.2 ⟨fun n hn => (h.sound n hn).2, h.ordered⟩⟩
  intro n hn
  rcases List.mem_cons.1 hn with rfl | hn
  · exact ⟨hm, hlo⟩
  · have hstop : m.start ≤ m.stop := Nat.le_add_right _ _
    exact ⟨(h.sound n hn).1, Nat.le_trans (Nat.le_trans hlo hstop) (h.sound n hn).2⟩

end Gathered

theorem collect_gathered (p : Pattern) : ∀ (after before : List Char) (skip : Nat),
    skip ≤ after.length →
    Gathered p (before.reverse ++ after) (before.length + skip)
      (p.collect before before.length skip after) := by
  intro after
  induction after with
  | nil =>
      intro before skip hskip
      obtain rfl : skip = 0 := by simpa using hskip
      rw [collect]
      cases h : p.matchAt? false ⟨before, [], before.length⟩ with
      | none => exact Gathered.nil
      | some m =>
          obtain ⟨hm, hstart, _⟩ := matchAt?_matchIn h
          exact Gathered.cons hm (by omega) Gathered.nil
  | cons a after ih =>
      intro before skip hskip
      have hrest : ∀ skip, skip ≤ after.length →
          Gathered p (before.reverse ++ a :: after) (before.length + 1 + skip)
            (p.collect (a :: before) (before.length + 1) skip after) := by
        intro skip hskip
        simpa using ih (a :: before) skip hskip
      -- a match of some characters, and what is found behind it
      have hmatch : ∀ {nonempty : Bool} {m : Match} {len : Nat},
          p.matchAt? nonempty ⟨before, a :: after, before.length⟩ = some m →
          m.text.length = len + 1 →
          Gathered p (before.reverse ++ a :: after) before.length
            (m :: p.collect (a :: before) (before.length + 1) len after) := by
        intro nonempty m len h hlen
        obtain ⟨hm, hstart, _⟩ := matchAt?_matchIn h
        have hstop := hm.stop_le
        rw [Match.stop, hstart, hlen] at hstop
        simp only [List.length_append, List.length_reverse, List.length_cons] at hstop
        have hle : m.stop ≤ before.length + 1 + len := by rw [Match.stop]; omega
        exact Gathered.cons hm (by omega) ((hrest len (by omega)).mono hle)
      cases skip with
      | succ skip =>
          rw [collect]
          have hlen : skip ≤ after.length := by simpa using hskip
          exact (hrest skip hlen).mono (by omega)
      | zero =>
          rw [collect]
          have hskipped := (hrest 0 (Nat.zero_le _)).mono
            (show before.length ≤ before.length + 1 + 0 by omega)
          cases h : p.matchAt? false ⟨before, a :: after, before.length⟩ with
          | none => exact hskipped
          | some m =>
              simp only []
              cases hlen : m.text.length with
              | succ len => exact hmatch h hlen
              | zero =>
                  obtain ⟨hm, hstart, _⟩ := matchAt?_matchIn h
                  have hstop : m.stop = before.length := by
                    rw [Match.stop, hstart, hlen, Nat.add_zero]
                  simp only []
                  cases h' : p.matchAt? true ⟨before, a :: after, before.length⟩ with
                  | none => exact Gathered.cons hm (by omega) (hskipped.mono (by omega))
                  | some n =>
                      obtain ⟨_, _, hne⟩ := matchAt?_matchIn h'
                      have hpos : 0 < n.text.length := List.length_pos_iff.2 (hne rfl)
                      have hlen' : n.text.length = n.text.length - 1 + 1 := by omega
                      exact Gathered.cons hm (by omega) ((hmatch h' hlen').mono (by omega))

/-- What `allIn` collects are matches in the text, from left to right, and none
overlaps another. -/
theorem allIn_gathered (p : Pattern) (s : List Char) : Gathered p s 0 (p.allIn s) :=
  collect_gathered p s [] 0 (Nat.zero_le _)

theorem allIn_matchIn {p : Pattern} {s : List Char} {m : Match} (h : m ∈ p.allIn s) :
    MatchIn p s m :=
  ((allIn_gathered p s).sound m h).1

/-- Two matches that are collected in a text are one match or do not overlap. -/
theorem allIn_apart {p : Pattern} {s : List Char} {m n : Match} (hm : m ∈ p.allIn s)
    (hn : n ∈ p.allIn s) : m = n ∨ m.stop ≤ n.start ∨ n.stop ≤ m.start := by
  have hordered := List.pairwise_iff_getElem.1 (allIn_gathered p s).ordered
  obtain ⟨i, hi, rfl⟩ := List.mem_iff_getElem.1 hm
  obtain ⟨j, hj, rfl⟩ := List.mem_iff_getElem.1 hn
  rcases Nat.lt_trichotomy i j with hlt | rfl | hlt
  · exact Or.inr (Or.inl (hordered i j hi hj hlt))
  · exact Or.inl rfl
  · exact Or.inr (Or.inr (hordered j i hj hi hlt))

end Pattern

end SecretScan

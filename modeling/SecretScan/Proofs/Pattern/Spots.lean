import SecretScan.Proofs.Pattern.Shun

/-!
# A shunned character cuts a text in two

The matches of a pattern in a text are found in one walk from left to right, in which
every match hides the places that it covers. A pattern never sees past a character that
it shuns, so the walk over the text before such a character and the walk over the text
behind it can be made on their own: that is `spots_cut`. Matches are compared by where
they stand and what they match.
-/

namespace SecretScan

namespace Pattern

open Cursor (Passes)

/-- Where matches stand and what they match. -/
def spots (ms : List Match) : List (Nat × List Char) := ms.map fun m => (m.start, m.text)

/-- Places in a text that stands behind some characters. -/
def moved (n : Nat) (l : List (Nat × List Char)) : List (Nat × List Char) :=
  l.map fun x => (x.1 + n, x.2)

section Spots

variable {edges : Bool} {bad : List Char} {p : Pattern}

theorem matchAt?_false (p : Pattern) (c : Cursor) :
    p.matchAt? false c = (ways p c []).head?.map (matchOf c) := by
  rw [matchAt?_eq]
  cases ways p c [] <;> rfl

theorem matchAt?_ne_nil (heats : p.eats = true) {c : Cursor} {m : Match}
    (hm : p.matchAt? false c = some m) : m.text ≠ [] := by
  rw [matchAt?_false] at hm
  obtain ⟨w, hw, rfl⟩ := Option.map_eq_some_iff.1 hm
  have hmem := List.mem_of_head? hw
  obtain ⟨u, hu⟩ := ways_passes hmem
  have hpos := eats_pos heats hmem
  rw [matchOf, hu.take_eq]
  rintro rfl
  rw [hu.pos] at hpos
  exact Nat.lt_irrefl _ hpos

theorem matchAt?_alike (hp : p.shuns edges bad = true) {y z : List Char} (hy : Stops bad y)
    (hz : Stops bad z) (u : List Char) {before before' : List Char}
    (hedge : edges = true → beginsWord before = beginsWord before') (pos pos' : Nat) :
    (p.matchAt? false ⟨before, u ++ y, pos⟩).map (·.text) =
      (p.matchAt? false ⟨before', u ++ z, pos'⟩).map (·.text) := by
  have halike : Alike edges y z pos' pos ⟨before, u ++ y, pos⟩ ⟨before', u ++ z, pos'⟩ :=
    ⟨⟨u, rfl, rfl⟩, hedge, Nat.add_comm _ _⟩
  have hways := ways_alike hy hz hp [] [] halike
  rw [matchAt?_false, matchAt?_false, Option.map_map, Option.map_map]
  cases hv : ways p ⟨before, u ++ y, pos⟩ [] with
  | nil =>
      rw [hv] at hways
      rw [List.forall₂_nil_left_iff.1 hways]
      rfl
  | cons v vs =>
      rw [hv] at hways
      obtain ⟨w, ws, hvw, -, hw⟩ := List.forall₂_cons_left_iff.1 hways
      obtain ⟨x, hx⟩ := ways_passes (hv ▸ List.mem_cons_self : v ∈ ways p ⟨before, u ++ y, pos⟩ [])
      obtain ⟨x', hx'⟩ := ways_passes
        (hw ▸ List.mem_cons_self : w ∈ ways p ⟨before', u ++ z, pos'⟩ [])
      obtain ⟨u', hu, hu'⟩ := hvw.text
      have h₁ : u ++ y = x ++ (u' ++ y) := hu ▸ hx.after
      have h₂ : u ++ z = x' ++ (u' ++ z) := hu' ▸ hx'.after
      rw [← List.append_assoc] at h₁ h₂
      have hxx : x ++ u' = x' ++ u' :=
        (List.append_cancel_right h₁).symm.trans (List.append_cancel_right h₂)
      have htake := hx.take_eq
      have htake' := hx'.take_eq
      simp only at htake htake'
      rw [hw]
      simp only [List.head?_cons, Option.map_some, Function.comp, matchOf]
      rw [htake, htake', List.append_cancel_right hxx]

/-- Where all is cut off there is no match. -/
theorem matchAt?_stops (hp : p.shuns edges bad = true) (heats : p.eats = true) {y : List Char}
    (hy : Stops bad y) (before : List Char) (pos : Nat) :
    p.matchAt? false ⟨before, y, pos⟩ = none := by
  have hnil : ways p ⟨before, [], pos⟩ [] = [] := by
    refine List.eq_nil_iff_forall_not_mem.2 fun w hw => ?_
    obtain ⟨u, hu⟩ := ways_passes hw
    have hpos := eats_pos heats hw
    have hlen := congrArg List.length hu.after
    rw [hu.pos] at hpos
    rw [List.length_append, List.length_nil] at hlen
    omega
  have halike : (p.matchAt? false ⟨before, [] ++ y, pos⟩).map (·.text) =
      (p.matchAt? false ⟨before, [] ++ [], pos⟩).map (·.text) :=
    matchAt?_alike hp hy (Stops.nil bad) [] (fun _ => rfl) pos pos
  rw [matchAt?_false p ⟨before, [] ++ [], pos⟩, List.append_nil, hnil] at halike
  simpa using halike

/-- The walk over a text, where no match is empty. -/
theorem collect_cons (heats : p.eats = true) (before : List Char) (pos : Nat) (a : Char)
    (after : List Char) :
    p.collect before pos 0 (a :: after) =
      match p.matchAt? false ⟨before, a :: after, pos⟩ with
      | none => p.collect (a :: before) (pos + 1) 0 after
      | some m => m :: p.collect (a :: before) (pos + 1) (m.text.length - 1) after := by
  rw [collect]
  cases hm : p.matchAt? false ⟨before, a :: after, pos⟩ with
  | none => rfl
  | some m =>
      simp only []
      cases hlen : m.text.length with
      | succ len => rfl
      | zero => exact absurd (List.eq_nil_of_length_eq_zero hlen) (matchAt?_ne_nil heats hm)

theorem collect_nil (hp : p.shuns edges bad = true) (heats : p.eats = true)
    (before : List Char) (pos : Nat) : p.collect before pos 0 [] = [] := by
  rw [collect, matchAt?_stops hp heats (Stops.nil bad)]
  rfl

theorem matchAt?_start {c : Cursor} {m : Match} (h : p.matchAt? false c = some m) :
    m.start = c.pos := by
  rw [matchAt?_false] at h
  obtain ⟨w, _, rfl⟩ := Option.map_eq_some_iff.1 h
  rfl

theorem matchAt?_length_le {c : Cursor} {m : Match} (h : p.matchAt? false c = some m) :
    m.text.length ≤ c.after.length := by
  rw [matchAt?_false] at h
  obtain ⟨w, _, rfl⟩ := Option.map_eq_some_iff.1 h
  exact List.length_take_le' _ _

/-- A walk comes by every place, unless a match covers it. -/
theorem collect_visits (heats : p.eats = true) {m : Match} : ∀ (u before v : List Char)
    (pos skip : Nat), skip ≤ u.length →
      p.matchAt? false ⟨u.reverse ++ before, v, pos + u.length⟩ = some m →
      m ∈ p.collect before pos skip (u ++ v) ∨
        ∃ n ∈ p.collect before pos skip (u ++ v), n.start < pos + u.length ∧ pos + u.length < n.stop := by
  intro u
  induction u with
  | nil =>
      intro before v pos skip hskip hm
      obtain rfl : skip = 0 := by simpa using hskip
      left
      rw [List.nil_append]
      cases v with
      | nil =>
          rw [collect]
          exact Option.mem_toList.2 hm
      | cons a v =>
          rw [collect_cons heats]
          have hm : p.matchAt? false ⟨before, a :: v, pos⟩ = some m := hm
          rw [hm]
          exact List.mem_cons_self
  | cons a u ih =>
      intro before v pos skip hskip hm
      rw [List.reverse_cons, List.append_assoc, List.singleton_append, List.length_cons,
        show pos + (u.length + 1) = pos + 1 + u.length by omega] at hm
      rw [List.length_cons, show pos + (u.length + 1) = pos + 1 + u.length by omega, List.cons_append]
      cases skip with
      | succ skip =>
          rw [collect]
          exact ih (a :: before) v (pos + 1) skip (by simpa using hskip) hm
      | zero =>
          rw [collect_cons heats]
          cases hn : p.matchAt? false ⟨before, a :: (u ++ v), pos⟩ with
          | none => exact ih (a :: before) v (pos + 1) 0 (Nat.zero_le _) hm
          | some n =>
              have hstart : n.start = pos := matchAt?_start hn
              rcases Nat.lt_or_ge u.length (n.text.length - 1) with hlt | hle
              · refine Or.inr ⟨n, List.mem_cons_self, by omega, ?_⟩
                rw [Match.stop]
                omega
              · rcases ih (a :: before) v (pos + 1) _ hle hm with h | ⟨k, hk, hlo, hhi⟩
                · exact Or.inl (List.mem_cons_of_mem n h)
                · exact Or.inr ⟨k, List.mem_cons_of_mem n hk, hlo, hhi⟩

/-- What matches at a place is collected, unless another match covers the place. -/
theorem allIn_visits (heats : p.eats = true) {u v : List Char} {m : Match}
    (hm : p.matchAt? false ⟨u.reverse, v, u.length⟩ = some m) :
    m ∈ p.allIn (u ++ v) ∨ ∃ n ∈ p.allIn (u ++ v), n.start < u.length ∧ u.length < n.stop := by
  have h := collect_visits heats u [] v 0 0 (Nat.zero_le _) (by simpa using hm)
  rwa [Nat.zero_add] at h

/-- A walk over a text that is cut off, compared to one over the text alone: they find
the same, and then the first goes on behind the text. -/
theorem spots_collect (hp : p.shuns edges bad = true) (heats : p.eats = true) {y : List Char}
    (hy : Stops bad y) (k : Nat) : ∀ (u before before' : List Char) (pos skip : Nat),
      (edges = true → beginsWord before = beginsWord before') → skip ≤ u.length →
      spots (p.collect before (pos + k) skip (u ++ y)) =
        moved k (spots (p.collect before' pos skip u)) ++
          spots (p.collect (u.reverse ++ before) (pos + k + u.length) 0 y) := by
  intro u
  induction u with
  | nil =>
      intro before before' pos skip _ hskip
      obtain rfl : skip = 0 := by simpa using hskip
      rw [collect_nil hp heats]
      rfl
  | cons a u ih =>
      intro before before' pos skip hedge hskip
      have hrest : ∀ skip, skip ≤ u.length →
          spots (p.collect (a :: before) (pos + k + 1) skip (u ++ y)) =
            moved k (spots (p.collect (a :: before') (pos + 1) skip u)) ++
              spots (p.collect ((a :: u).reverse ++ before) (pos + k + (a :: u).length) 0 y) := by
        intro skip hskip
        have h := ih (a :: before) (a :: before') (pos + 1) skip (fun _ => rfl) hskip
        rw [show pos + 1 + k = pos + k + 1 by omega] at h
        rw [h, List.reverse_cons, List.append_assoc, List.singleton_append, List.length_cons,
          show pos + k + 1 + u.length = pos + k + (u.length + 1) by omega]
      cases skip with
      | succ skip =>
          rw [List.cons_append, collect, collect]
          exact hrest skip (by simpa using hskip)
      | zero =>
          have halike := matchAt?_alike hp hy (Stops.nil bad) (a :: u) hedge (pos + k) pos
          rw [List.append_nil] at halike
          rw [List.cons_append, collect_cons heats, collect_cons heats]
          rw [List.cons_append] at halike
          cases hm : p.matchAt? false ⟨before', a :: u, pos⟩ with
          | none =>
              rw [hm, Option.map_none, Option.map_eq_none_iff] at halike
              rw [halike]
              exact hrest 0 (Nat.zero_le _)
          | some m =>
              rw [hm, Option.map_some] at halike
              obtain ⟨n, hn, htext⟩ := Option.map_eq_some_iff.1 halike
              have hlen := matchAt?_length_le hm
              rw [List.length_cons] at hlen
              rw [hn]
              simp only []
              rw [htext]
              have h := hrest (m.text.length - 1) (by omega)
              simp only [spots, moved, List.map_cons, List.cons_append] at h ⊢
              rw [h, matchAt?_start hm, matchAt?_start hn, htext]

/-- A character that a pattern shuns cuts a text in two. -/
theorem spots_cut (hp : p.shuns edges bad = true) (heats : p.eats = true) {b : Char}
    (hb : b ∈ bad) (hword : edges = true → Text.isWord b = false) (u v : List Char) :
    spots (p.allIn (u ++ b :: v)) =
      spots (p.allIn u) ++ moved (u.length + 1) (spots (p.allIn v)) := by
  have hu := spots_collect hp heats (Stops.cons hb v) 0 u [] [] 0 0 (fun _ => rfl) (Nat.zero_le _)
  have hv := spots_collect hp heats (Stops.nil bad) (u.length + 1) v (b :: u.reverse) [] 0 0
    hword (Nat.zero_le _)
  rw [collect_nil hp heats, List.append_nil, Nat.zero_add] at hv
  rw [collect_cons heats, matchAt?_stops hp heats (Stops.cons hb v), List.append_nil] at hu
  simp only [Nat.zero_add, Nat.add_zero] at hu
  rw [hv] at hu
  rw [allIn, hu]
  simp [moved, spots, allIn]

end Spots

end Pattern

end SecretScan

import SecretScan.Rewrite.Content

/-!
# What splicing does to a text

Edits come in the order in which they were found. Sorting puts them into the order of
the text, and one walk applies them. `Replaces` says what the walk amounts to without
positions to add up: a text is cut into gaps and literals, the gaps stay, and each
literal gives way to its successor.
-/

namespace SecretScan.Rewrite

/-- A literal that gives way to a reference: where it begins and what it consists of,
and the finding that it is owned by, with its number and its variable. -/
structure Replaced where
  start : Nat
  kept : List Char
  quote : Char
  body : List Char
  index : Nat
  finding : Finding
  variableName : String

namespace Replaced

/-- The literal as it stands in the text. -/
def literal (r : Replaced) : List Char := r.kept ++ r.quote :: (r.body ++ [r.quote])

/-- The position behind the literal. -/
def stop (r : Replaced) : Nat := r.start + r.literal.length

/-- What the literal gives way to: the reference, between the quotes of the literal
where these stay. -/
def successor (file : FilePath) (r : Replaced) : List Char :=
  let ref := reference r.variableName file
  if ref.replacesQuotes then r.kept ++ ref.text.toList
  else r.kept ++ r.quote :: (ref.text.toList ++ [r.quote])

/-- The edit that replaces the literal. -/
def edit (file : FilePath) (r : Replaced) : Edit := ⟨r.start, r.stop, r.successor file⟩

theorem start_lt_stop (r : Replaced) : r.start < r.stop := by
  simp only [stop, literal, List.length_append, List.length_cons]
  omega

end Replaced

/-- Two literals share no character. -/
def Apart (a b : Replaced) : Prop := a.stop ≤ b.start ∨ b.stop ≤ a.start

/-- One text is another one in which literals gave way, from left to right, and nothing
else changed. Both texts are read from a position on. -/
inductive Replaces (file : FilePath) : Nat → List Replaced → List Char → List Char → Prop
  | rest (pos : Nat) (s : List Char) : Replaces file pos [] s s
  | next {pos : Nat} {r : Replaced} {rs : List Replaced} {s t : List Char} (gap : List Char) :
      r.start = pos + gap.length → Replaces file r.stop rs s t →
      Replaces file pos (r :: rs) (gap ++ (r.literal ++ s)) (gap ++ (r.successor file ++ t))

namespace Edit

/-! ## Sorting -/

theorem map_insert {α : Type} (f : α → Edit) (a : α) (l : List α) :
    ∃ l' : List α, l'.Perm (a :: l) ∧ l'.map f = insert (f a) (l.map f) := by
  induction l with
  | nil => exact ⟨[a], .refl _, rfl⟩
  | cons b l ih =>
      rw [List.map_cons, insert]
      split
      · exact ⟨a :: b :: l, .refl _, rfl⟩
      · obtain ⟨l', hperm, hmap⟩ := ih
        exact ⟨b :: l', (hperm.cons b).trans (.swap a b l), by rw [List.map_cons, hmap]⟩

/-- Sorting the edits of things amounts to sorting the things. -/
theorem map_sort {α : Type} (f : α → Edit) (l : List α) :
    ∃ l' : List α, l'.Perm l ∧ l'.map f = sort (l.map f) := by
  induction l with
  | nil => exact ⟨[], .refl _, rfl⟩
  | cons a l ih =>
      obtain ⟨l', hperm, hmap⟩ := ih
      obtain ⟨l'', hperm', hmap'⟩ := map_insert f a l'
      exact ⟨l'', hperm'.trans (hperm.cons a), by rw [List.map_cons, sort, ← hmap, hmap']⟩

theorem mem_insert {e x : Edit} {l : List Edit} (h : x ∈ insert e l) : x = e ∨ x ∈ l := by
  obtain ⟨l', hperm, hmap⟩ := map_insert id e l
  rw [List.map_id, List.map_id] at hmap
  rw [← id_eq (a := e), ← hmap] at h
  exact List.mem_cons.1 (hperm.mem_iff.1 h)

theorem insert_ordered (e : Edit) {l : List Edit} (h : l.Pairwise fun a b => a.start ≤ b.start) :
    (insert e l).Pairwise fun a b => a.start ≤ b.start := by
  induction l with
  | nil => exact List.pairwise_singleton _ _
  | cons f l ih =>
      obtain ⟨hf, hl⟩ := List.pairwise_cons.1 h
      rw [insert]
      split
      · next hle =>
          refine List.pairwise_cons.2 ⟨?_, h⟩
          intro x hx
          rcases List.mem_cons.1 hx with rfl | hx
          · exact hle
          · exact Nat.le_trans hle (hf x hx)
      · next hlt =>
          refine List.pairwise_cons.2 ⟨?_, ih hl⟩
          intro x hx
          rcases mem_insert hx with rfl | hx
          · omega
          · exact hf x hx

theorem sort_ordered (l : List Edit) : (sort l).Pairwise fun a b => a.start ≤ b.start := by
  induction l with
  | nil => exact List.Pairwise.nil
  | cons e l ih => exact insert_ordered e ih

end Edit

/-! ## Splicing -/

/-- Edits in order, each of which finds its literal in the text, replace the literals. -/
theorem splice_replaces (file : FilePath) : ∀ (rs : List Replaced) (pos : Nat) (s : List Char),
    (∀ r ∈ rs, pos ≤ r.start ∧ r.literal <+: s.drop (r.start - pos)) →
    rs.Pairwise (fun a b => a.stop ≤ b.start) →
    Replaces file pos rs s (Edit.splice pos (rs.map (·.edit file)) s) := by
  intro rs
  induction rs with
  | nil => intro pos s _ _; exact .rest pos s
  | cons r rs ih =>
      intro pos s hfound hordered
      obtain ⟨hbehind, hordered⟩ := List.pairwise_cons.1 hordered
      obtain ⟨hpos, tail, htail⟩ := hfound r List.mem_cons_self
      have hlen : (s.take (r.start - pos)).length = r.start - pos := by
        have hlit := congrArg List.length htail
        simp only [Replaced.literal, List.length_append, List.length_cons, List.length_drop] at hlit
        rw [List.length_take]
        omega
      have hs : s = s.take (r.start - pos) ++ (r.literal ++ tail) := by
        rw [htail, List.take_append_drop]
      have hdrop : s.drop (r.stop - pos) = tail := by
        rw [show r.stop - pos = (r.start - pos) + r.literal.length by rw [Replaced.stop]; omega,
          ← List.drop_drop, ← htail, List.drop_left]
      have hrest := ih r.stop tail
        (by
          intro x hx
          refine ⟨hbehind x hx, ?_⟩
          obtain ⟨_, hx'⟩ := hfound x (List.mem_cons_of_mem r hx)
          have hle := hbehind x hx
          have hlt := r.start_lt_stop
          rw [← hdrop, List.drop_drop,
            show r.stop - pos + (x.start - r.stop) = x.start - pos by omega]
          exact hx')
        hordered
      have hgap : r.start = pos + (s.take (r.start - pos)).length := by rw [hlen]; omega
      have hsplice : Edit.splice pos ((r :: rs).map (·.edit file)) s =
          s.take (r.start - pos) ++
            (r.successor file ++ Edit.splice r.stop (rs.map (·.edit file)) tail) := by
        simp only [List.map_cons, Edit.splice, Replaced.edit, hdrop, List.append_assoc]
      rw [hsplice]
      have hnext := Replaces.next (s.take (r.start - pos)) hgap hrest
      rwa [← hs] at hnext

/-- The same for edits in any order, as long as they do not overlap. -/
theorem applyAll_replaces (file : FilePath) {rs : List Replaced} {s : List Char}
    (hfound : ∀ r ∈ rs, r.literal <+: s.drop r.start)
    (happart : rs.Pairwise Apart) :
    ∃ rs' : List Replaced, rs'.Perm rs ∧
      Replaces file 0 rs' s (Edit.applyAll (rs.map (·.edit file)) s) := by
  obtain ⟨rs', hperm, hmap⟩ := Edit.map_sort (·.edit file) rs
  have hordered : rs'.Pairwise fun a b => a.start ≤ b.start := by
    have h := Edit.sort_ordered (rs.map (·.edit file))
    rw [← hmap] at h
    rwa [List.pairwise_map] at h
  have happart' := (hperm.pairwise_iff (fun h => Or.symm h)).2 happart
  refine ⟨rs', hperm, ?_⟩
  rw [Edit.applyAll, ← hmap]
  refine splice_replaces file rs' 0 s ?_ ?_
  · intro r hr
    exact ⟨Nat.zero_le _, hfound r (hperm.mem_iff.1 hr)⟩
  · refine (happart'.and hordered).imp ?_
    rintro a b ⟨h | h, hle⟩
    · exact h
    · have := b.start_lt_stop
      omega

end SecretScan.Rewrite

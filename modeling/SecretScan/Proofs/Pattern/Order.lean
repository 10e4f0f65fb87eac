import SecretScan.Proofs.Pattern.Captures

/-!
# Texts in an order

A pattern for one thing, then anything, and then another thing says no more than that texts of the
two stand one behind the other. How few characters a run in between is said to take does not matter
to whether there is a match: a lazy run goes over the same texts as a greedy one, in another order
(`mem_rounds_greed`). So such a pattern occurs in a text if and only if its parts can be read in it
from left to right (`occursIn_chained`).
-/

namespace SecretScan

namespace Pattern

open Cursor (Passes)

/-- Somewhere in a text the pattern can be read. -/
def Contains (p : Pattern) (s : List Char) : Prop := ∃ a w b, s = a ++ (w ++ b) ∧ Reads p w

/-- Texts of some patterns stand in a text, each behind the one before. -/
def InOrder : List Pattern → List Char → Prop
  | [], _ => True
  | p :: ps, s => ∃ a w b, s = a ++ (w ++ b) ∧ Reads p w ∧ InOrder ps b

/-! ## Occurrences -/

theorem matchAt?_isSome {p : Pattern} {c : Cursor} :
    (p.matchAt? false c).isSome = true ↔ ∃ w, w ∈ ways p c [] := by
  rw [matchAt?_false, Option.isSome_map, List.isSome_head?]
  exact ⟨List.exists_mem_of_ne_nil _, fun ⟨_, hw⟩ => List.ne_nil_of_mem hw⟩

theorem searchFrom?_isSome {p : Pattern} {s : List Char} : ∀ {before : List Char} {pos : Nat},
    (p.searchFrom? before pos s).isSome = true ↔
      ∃ u v w, s = u ++ v ∧ w ∈ ways p ⟨u.reverse ++ before, v, pos + u.length⟩ [] := by
  induction s with
  | nil =>
      intro before pos
      rw [searchFrom?, matchAt?_isSome]
      constructor
      · rintro ⟨w, hw⟩
        exact ⟨[], [], w, rfl, hw⟩
      · rintro ⟨u, v, w, h, hw⟩
        obtain ⟨rfl, rfl⟩ := List.append_eq_nil_iff.1 h.symm
        exact ⟨w, hw⟩
  | cons a s ih =>
      intro before pos
      have hsearch : (p.searchFrom? before pos (a :: s)).isSome = true ↔
          (p.matchAt? false ⟨before, a :: s, pos⟩).isSome = true ∨
            (p.searchFrom? (a :: before) (pos + 1) s).isSome = true := by
        rw [searchFrom?]
        cases p.matchAt? false ⟨before, a :: s, pos⟩ <;> simp
      rw [hsearch, matchAt?_isSome, ih]
      constructor
      · rintro (⟨w, hw⟩ | ⟨u, v, w, rfl, hw⟩)
        · exact ⟨[], a :: s, w, rfl, hw⟩
        · refine ⟨a :: u, v, w, rfl, ?_⟩
          rw [List.reverse_cons, List.append_assoc, List.length_cons, Nat.add_comm u.length,
            ← Nat.add_assoc]
          exact hw
      · rintro ⟨u, v, w, h, hw⟩
        cases u with
        | nil =>
            obtain rfl : a :: s = v := h
            exact .inl ⟨w, hw⟩
        | cons b u =>
            obtain ⟨rfl, rfl⟩ := List.cons.inj h
            refine .inr ⟨u, v, w, rfl, ?_⟩
            rw [List.reverse_cons, List.append_assoc, List.length_cons, Nat.add_comm u.length,
              ← Nat.add_assoc] at hw
            exact hw

/-- A pattern occurs in a text if it can be matched behind some part of it. -/
theorem occursIn_iff_way {p : Pattern} {s : List Char} : p.occursIn s = true ↔
    ∃ u v w, s = u ++ v ∧ w ∈ ways p ⟨u.reverse, v, u.length⟩ [] := by
  rw [occursIn, searchFrom?_isSome]
  simp only [List.append_nil, Nat.zero_add]

theorem occursIn_iff_contains {p : Pattern} (hflat : p.isFlat = true) {s : List Char} :
    p.occursIn s = true ↔ Contains p s := by
  rw [occursIn_iff_way]
  constructor
  · rintro ⟨u, v, w, rfl, hw⟩
    obtain ⟨x, hpass, hread⟩ := reads_of_way hflat w hw
    exact ⟨u, x, w.1.after, congrArg (u ++ ·) hpass.after, hread⟩
  · rintro ⟨a, w, b, rfl, hread⟩
    obtain ⟨m, hm⟩ := hread.way [] (show Passes ⟨a.reverse, w ++ b, a.length⟩ w
      ⟨w.reverse ++ a.reverse, b, a.length + w.length⟩ from ⟨rfl, rfl, rfl⟩)
    exact ⟨a, w ++ b, _, rfl, hm⟩

/-! ## Runs of anything -/

/-- A lazy repetition goes over the same texts as a greedy one. -/
theorem mem_rounds_greed {body : Cursor → Marks → List (Cursor × Marks)} {w : Cursor × Marks} :
    ∀ (fuel least : Nat) (most last : Option Nat) (c : Cursor) (m : Marks),
      w ∈ rounds body false fuel least most last c m ↔
        w ∈ rounds body true fuel least most last c m := by
  intro fuel
  induction fuel with
  | zero => exact fun _ _ _ _ _ => Iff.rfl
  | succ fuel ih =>
      intro least most last c m
      cases least with
      | succ least =>
          rw [rounds, rounds, List.mem_flatMap, List.mem_flatMap]
          exact exists_congr fun v => and_congr_right fun _ => ih least _ last v.1 v.2
      | zero =>
          rw [rounds, rounds]
          split
          · exact Iff.rfl
          · simp only [Bool.false_eq_true, if_false, if_true, List.mem_cons, List.mem_append,
              List.mem_flatMap, List.not_mem_nil, or_false]
            rw [or_comm]
            exact or_congr_left (exists_congr fun v => and_congr_right fun _ => ih 0 _ _ v.1 v.2)

/-- As few characters as it takes, of any kind. -/
def IsGap (p : Pattern) : Prop :=
  ∃ test, p = times .lazy 0 none (one test) ∧ ∀ a, test.holds a = true

theorem IsGap.way {gap : Pattern} (h : IsGap gap) {c d : Cursor} {x : List Char} (m : Marks)
    (hpass : c.Passes x d) : (d, m) ∈ ways gap c m := by
  obtain ⟨test, rfl, hall⟩ := h
  have hlen := congrArg List.length hpass.after
  rw [List.length_append] at hlen
  simp only [ways]
  rw [mem_rounds_greed]
  exact mem_rounds_one (fun a _ => hall a) m hpass (Nat.zero_le _) (fun _ h => by cases h)
    (fun _ h => by cases h) (by omega)

/-! ## Parts with gaps between them -/

/-- Lists of patterns one after the other, with a gap between each two. -/
def chained (gap : Pattern) : List (List Pattern) → List Pattern
  | [] => []
  | [l] => l
  | l :: ls => l ++ gap :: chained gap ls

theorem mem_ways_ofList_cons {p : Pattern} {ps : List Pattern} {c : Cursor} {m : Marks}
    {v w : Cursor × Marks} (hv : v ∈ ways p c m) (hw : w ∈ ways (ofList ps) v.1 v.2) :
    w ∈ ways (ofList (p :: ps)) c m := by
  cases ps with
  | nil =>
      rw [ofList, ways, List.mem_singleton] at hw
      exact hw ▸ hv
  | cons q qs => exact mem_ways_seq hv hw

theorem mem_ways_ofList_append {l l' : List Pattern} : ∀ {c : Cursor} {m : Marks}
    {v w : Cursor × Marks}, v ∈ ways (ofList l) c m → w ∈ ways (ofList l') v.1 v.2 →
      w ∈ ways (ofList (l ++ l')) c m := by
  induction l with
  | nil =>
      intro c m v w hv hw
      rw [ofList, ways, List.mem_singleton] at hv
      subst hv
      exact hw
  | cons p l ih =>
      intro c m v w hv hw
      obtain ⟨u, hu, hv⟩ := ways_ofList_cons hv
      exact mem_ways_ofList_cons hu (ih hv hw)

/-- There is a way over parts with gaps between them if and only if the first part can be read at
the cursor, and the others behind it in their order. -/
theorem exists_way_chained {gap : Pattern} (hgap : IsGap gap) (ls : List (List Pattern)) :
    ∀ (l : List Pattern), (∀ part ∈ l :: ls, (ofList part).isFlat = true) → ∀ (c : Cursor)
      (m : Marks), (∃ w, w ∈ ways (ofList (chained gap (l :: ls))) c m) ↔
        ∃ x b, c.after = x ++ b ∧ Reads (ofList l) x ∧ InOrder (ls.map ofList) b := by
  induction ls with
  | nil =>
      intro l hflat c m
      constructor
      · rintro ⟨w, hw⟩
        obtain ⟨x, hpass, hread⟩ := reads_of_way (hflat l List.mem_cons_self) w hw
        exact ⟨x, w.1.after, hpass.after, hread, trivial⟩
      · rintro ⟨x, b, hafter, hread, -⟩
        let d : Cursor := ⟨x.reverse ++ c.before, b, c.pos + x.length⟩
        obtain ⟨m', hm'⟩ := hread.way m (show Passes c x d from ⟨hafter, rfl, rfl⟩)
        exact ⟨_, hm'⟩
  | cons l' ls ih =>
      intro l hflat c m
      have hrest := ih l' (fun part hpart => hflat part (List.mem_cons_of_mem l hpart))
      constructor
      · rintro ⟨w, hw⟩
        obtain ⟨v, hv, hw⟩ := ways_ofList_append (l := l) hw
        obtain ⟨x, hpass, hread⟩ := reads_of_way (hflat l List.mem_cons_self) v hv
        obtain ⟨u, hu, hw⟩ := ways_ofList_cons hw
        obtain ⟨a, ha⟩ := ways_passes hu
        obtain ⟨x', b, hafter, hread', horder⟩ := (hrest u.1 u.2).1 ⟨w, hw⟩
        exact ⟨x, v.1.after, hpass.after, hread, a, x', b, hafter ▸ ha.after, hread', horder⟩
      · rintro ⟨x, b, hafter, hread, a, x', b', rfl, hread', horder⟩
        let d : Cursor := ⟨x.reverse ++ c.before, a ++ (x' ++ b'), c.pos + x.length⟩
        let e : Cursor := ⟨a.reverse ++ d.before, x' ++ b', d.pos + a.length⟩
        obtain ⟨m', hd⟩ := hread.way m (show Passes c x d from ⟨hafter, rfl, rfl⟩)
        have he : (e, m') ∈ ways gap d m' := hgap.way m' ⟨rfl, rfl, rfl⟩
        obtain ⟨w, hw⟩ := (hrest e m').2 ⟨x', b', rfl, hread', horder⟩
        exact ⟨w, mem_ways_ofList_append (l := l) hd (mem_ways_ofList_cons he hw)⟩

/-- Parts with gaps between them occur in a text if they can be read there in their order. -/
theorem occursIn_chained {gap : Pattern} (hgap : IsGap gap) {l : List Pattern}
    {ls : List (List Pattern)} (hflat : ∀ part ∈ l :: ls, (ofList part).isFlat = true)
    {s : List Char} :
    (ofList (chained gap (l :: ls))).occursIn s = true ↔ InOrder ((l :: ls).map ofList) s := by
  rw [occursIn_iff_way]
  constructor
  · rintro ⟨u, v, w, rfl, hw⟩
    obtain ⟨x, b, rfl, hread, horder⟩ := (exists_way_chained hgap ls l hflat _ _).1 ⟨w, hw⟩
    exact ⟨u, x, b, rfl, hread, horder⟩
  · rintro ⟨a, x, b, rfl, hread, horder⟩
    obtain ⟨w, hw⟩ := (exists_way_chained hgap ls l hflat ⟨a.reverse, x ++ b, a.length⟩ []).2
      ⟨x, b, rfl, hread, horder⟩
    exact ⟨a, x ++ b, w, rfl, hw⟩

end Pattern

end SecretScan

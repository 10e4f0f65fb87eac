import SecretScan.Proofs.Pattern.Reads

/-!
# What a group captures

The rules for secrets are lists of patterns of which at most one is a group. A way to match
such a list goes over the patterns before the group, over the group and over those behind
it, and the marks remember where the group began and ended (`ways_ofList_group`). So the
text of a match falls into three texts, each read by its own part of the list, and the group
has captured the second one (`MatchIn.captures`).
-/

namespace SecretScan

namespace Pattern

open Cursor (Passes)

@[simp]
theorem ofList_cons_cons (p q : Pattern) (ps : List Pattern) :
    ofList (p :: q :: ps) = seq p (ofList (q :: ps)) := rfl

theorem ways_ofList_cons {p : Pattern} {ps : List Pattern} {c : Cursor} {m : Marks}
    {w : Cursor × Marks} (hw : w ∈ ways (ofList (p :: ps)) c m) :
    ∃ v ∈ ways p c m, w ∈ ways (ofList ps) v.1 v.2 := by
  cases ps with
  | nil =>
      refine ⟨w, hw, ?_⟩
      rw [ofList, ways]
      exact List.mem_singleton_self w
  | cons q qs =>
      rw [ofList_cons_cons, ways] at hw
      exact List.mem_flatMap.1 hw

theorem ways_ofList_append {l l' : List Pattern} : ∀ {c : Cursor} {m : Marks}
    {w : Cursor × Marks}, w ∈ ways (ofList (l ++ l')) c m →
      ∃ v ∈ ways (ofList l) c m, w ∈ ways (ofList l') v.1 v.2 := by
  induction l with
  | nil =>
      intro c m w hw
      exact ⟨(c, m), by rw [ofList, ways]; exact List.mem_singleton_self _, hw⟩
  | cons p l ih =>
      intro c m w hw
      obtain ⟨v, hv, hw⟩ := ways_ofList_cons hw
      obtain ⟨u, hu, hw⟩ := ih hw
      refine ⟨u, ?_, hw⟩
      cases l with
      | nil =>
          rw [ofList, ways, List.mem_singleton] at hu
          exact hu ▸ hv
      | cons q qs =>
          rw [ofList_cons_cons, ways]
          exact List.mem_flatMap.2 ⟨v, hv, hu⟩

/-! ## Marks -/

theorem span?_closeGroup {index start stop : Nat} (h : start ≤ stop) (m : Marks) :
    ((m.openGroup index start).closeGroup index stop).span? index = some (start, stop) := by
  induction m with
  | nil => simp [Marks.openGroup, Marks.closeGroup, Marks.span?, h]
  | cons a m ih =>
      rw [Marks.openGroup]
      split
      · simp [Marks.closeGroup, Marks.span?, h]
      · next hne =>
          rw [Marks.closeGroup, if_neg hne, Marks.span?, List.find?_cons, decide_eq_false hne]
          exact ih

/-! ## Parts -/

/-- The parts of a list of patterns around a group may be read on their own. -/
def isCapturing (front : List Pattern) (body : Pattern) (back : List Pattern) : Bool :=
  (ofList front).isFlat && (ofList front).isBare && body.isFlat && body.isBare &&
    (ofList back).isFlat && (ofList back).isBare

variable {front back : List Pattern} {body : Pattern} {index : Nat}

theorem ways_ofList_group (h : isCapturing front body back = true) {c : Cursor} {m : Marks}
    {w : Cursor × Marks} (hw : w ∈ ways (ofList (front ++ group index body :: back)) c m) :
    ∃ x y z, c.Passes (x ++ (y ++ z)) w.1 ∧ Reads (ofList front) x ∧ Reads body y ∧
      Reads (ofList back) z ∧
      w.2.span? index = some (c.pos + x.length, c.pos + x.length + y.length) := by
  simp only [isCapturing, Bool.and_eq_true] at h
  obtain ⟨⟨⟨⟨⟨hflat, hbare⟩, hflat'⟩, hbare'⟩, hflat''⟩, hbare''⟩ := h
  obtain ⟨u, hu, hw⟩ := ways_ofList_append hw
  obtain ⟨v, hv, hw⟩ := ways_ofList_cons hw
  obtain ⟨hv, hmarks⟩ := ways_group hbare' hv
  obtain ⟨x, hx, hread⟩ := reads_of_way hflat u hu
  obtain ⟨y, hy, hread'⟩ := reads_of_way hflat' _ hv
  obtain ⟨z, hz, hread''⟩ := reads_of_way hflat'' w hw
  refine ⟨x, y, z, hx.trans (hy.trans hz), hread, hread', hread'', ?_⟩
  rw [ways_marks hbare'' w hw, hmarks, ← hx.pos, ← hy.pos]
  refine span?_closeGroup ?_ _
  rw [hy.pos]
  exact Nat.le_add_right _ _

/-- What a group captured, by the place where it stood. -/
theorem group?_of_span? {m : Match} {x y z : List Char} (htext : m.text = x ++ (y ++ z))
    (hspan : m.marks.span? index =
      some (m.start + x.length, m.start + x.length + y.length)) : m.group? index = some y := by
  rw [Match.group?, hspan, Option.map_some]
  simp only [if_pos (Nat.le_add_right m.start x.length)]
  rw [Nat.add_sub_cancel_left, Nat.add_sub_cancel_left, htext, List.append_assoc, List.drop_left,
    List.append_assoc, List.take_left]

/-- A match falls into what stands before a group, what it captured, and what stands behind
it. -/
theorem MatchIn.captures (h : isCapturing front body back = true) {s : List Char} {m : Match}
    (hm : MatchIn (ofList (front ++ group index body :: back)) s m) :
    ∃ x y z, m.text = x ++ (y ++ z) ∧ Reads (ofList front) x ∧ Reads body y ∧
      Reads (ofList back) z ∧ m.group? index = some y := by
  obtain ⟨x, y, z, hpass, hx, hy, hz, hspan⟩ := ways_ofList_group h hm.way
  have htext : m.text = x ++ (y ++ z) := List.append_cancel_right hpass.after
  exact ⟨x, y, z, htext, hx, hy, hz, group?_of_span? htext hspan⟩

end Pattern

end SecretScan

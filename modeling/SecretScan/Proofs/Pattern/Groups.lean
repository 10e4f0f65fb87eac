import SecretScan.Proofs.Pattern.Places

/-!
# What the groups of a pattern remember

A pattern without groups of its own leaves the marks alone (`ways_marks`), so the
marks after a literal can be written down: the three groups side by side, and then
the quote once more. `ways_literal` takes a way to match a literal apart into what
stands before it, the quote, the body and the same quote, and `literal_groups` reads
these parts off the match.
-/

namespace SecretScan

namespace Pattern

open Cursor (Passes)

/-- Whether a pattern has no groups of its own. -/
def isBare : Pattern → Bool
  | empty => true
  | one _ => true
  | anchor _ => true
  | seq p q => p.isBare && q.isBare
  | alt p q => p.isBare && q.isBare
  | times _ _ _ body => body.isBare
  | group _ _ => false
  | again _ _ => true
  | ahead _ body => body.isBare
  | behind _ _ body => body.isBare
  | atomic body => body.isBare
  | ifGroup _ yes no => yes.isBare && no.isBare

theorem guarded_marks {negated : Bool} {c : Cursor} {m : Marks} {ws : List (Cursor × Marks)}
    (hws : ∀ w ∈ ws, w.2 = m) : ∀ w ∈ guarded negated c m ws, w.2 = m := by
  intro w hw
  cases ws with
  | nil =>
      rw [guarded] at hw
      split at hw
      · rw [List.mem_singleton] at hw; rw [hw]
      · cases hw
  | cons v ws =>
      rw [guarded] at hw
      split at hw
      · cases hw
      · rw [List.mem_singleton] at hw
        rw [hw]
        exact hws v List.mem_cons_self

/-- A pattern without groups leaves the marks alone. -/
theorem ways_marks {p : Pattern} : p.isBare = true → ∀ {c : Cursor} {m : Marks},
    ∀ w ∈ ways p c m, w.2 = m := by
  induction p with
  | empty =>
      intro _ c m w hw
      rw [ways, List.mem_singleton] at hw
      rw [hw]
  | one test =>
      intro _ c m w hw
      obtain ⟨before, after, pos⟩ := c
      cases after with
      | nil => simp [ways] at hw
      | cons a rest =>
          simp only [ways] at hw
          split at hw
          · rw [List.mem_singleton] at hw; rw [hw]
          · cases hw
  | anchor a =>
      intro _ c m w hw
      rw [ways] at hw
      split at hw
      · rw [List.mem_singleton] at hw; rw [hw]
      · cases hw
  | seq p q ihp ihq =>
      intro h c m w hw
      rw [isBare, Bool.and_eq_true] at h
      obtain ⟨v, hv, hw⟩ := List.mem_flatMap.1 (by rwa [ways] at hw)
      rw [ihq h.2 w hw, ihp h.1 v hv]
  | alt p q ihp ihq =>
      intro h c m w hw
      rw [isBare, Bool.and_eq_true] at h
      rw [ways] at hw
      exact (List.mem_append.1 hw).elim (ihp h.1 w) (ihq h.2 w)
  | times greed least most body ih =>
      intro h c m w hw
      exact mem_ways_times (R := fun v w => w.2 = v.2) (fun _ => rfl)
        (fun hu hv => hv.trans hu) (fun c m w hw => ih h w hw) hw
  | group index body ih => intro h; simp [isBare] at h
  | again fold index =>
      intro _ c m w hw
      rw [ways] at hw
      split at hw
      · cases hw
      · split at hw
        · rw [List.mem_singleton] at hw; rw [hw]
        · cases hw
  | ahead negated body ih =>
      intro h c m w hw
      rw [ways] at hw
      exact guarded_marks (fun v hv => ih h v hv) w hw
  | behind negated width body ih =>
      intro h c m w hw
      rw [ways] at hw
      split at hw
      · exact guarded_marks (by simp) w hw
      · exact guarded_marks (fun v hv => ih h v hv) w hw
  | atomic body ih =>
      intro h c m w hw
      rw [ways] at hw
      exact ih h w (List.mem_of_mem_take hw)
  | ifGroup index yes no ihy ihn =>
      intro h c m w hw
      rw [isBare, Bool.and_eq_true] at h
      rw [ways] at hw
      split at hw
      · exact ihy h.1 w hw
      · exact ihn h.2 w hw

theorem ways_group {index : Nat} {body : Pattern} (hbare : body.isBare = true) {c : Cursor}
    {m : Marks} {w : Cursor × Marks} (hw : w ∈ ways (group index body) c m) :
    (w.1, m.openGroup index c.pos) ∈ ways body c (m.openGroup index c.pos) ∧
      w.2 = (m.openGroup index c.pos).closeGroup index w.1.pos := by
  obtain ⟨v, hv, rfl⟩ := List.mem_map.1 (by rwa [ways] at hw)
  have hm := ways_marks hbare v hv
  have hpair : (v.1, m.openGroup index c.pos) = v := Prod.ext rfl hm.symm
  exact ⟨hpair ▸ hv, by rw [hm]⟩

/-! ## Single characters -/

@[simp]
theorem holds_within_singles (singles : String) (d : Char) :
    (CharTest.within .exact [] singles).holds d = singles.toList.contains d := by
  simp only [CharTest.within, CharTest.holds, List.map_nil, List.nil_append, List.any_map,
    Bool.bne_false]
  induction singles.toList with
  | nil => rfl
  | cons c cs ih => rw [List.any_cons, List.contains_cons, ih]; rfl

theorem ways_one {test : CharTest} {c : Cursor} {m : Marks} {w : Cursor × Marks}
    (hw : w ∈ ways (one test) c m) :
    ∃ a, test.holds a = true ∧ c.Passes [a] w.1 ∧ w.2 = m := by
  obtain ⟨before, after, pos⟩ := c
  cases after with
  | nil => simp [ways] at hw
  | cons a rest =>
      simp only [ways] at hw
      split at hw
      · next ha =>
          rw [List.mem_singleton] at hw
          exact ⟨a, ha, hw ▸ ⟨rfl, rfl, rfl⟩, by rw [hw]⟩
      · cases hw

theorem ways_anchor {a : Anchor} {c : Cursor} {m : Marks} {w : Cursor × Marks}
    (hw : w ∈ ways (anchor a) c m) : w = (c, m) := by
  rw [ways] at hw
  split at hw
  · exact List.mem_singleton.1 hw
  · cases hw

/-- A quote is a single or a double one. -/
def IsQuote (q : Char) : Prop := q = '"' ∨ q = '\''

theorem ways_quote {c : Cursor} {m : Marks} {w : Cursor × Marks} (hw : w ∈ ways quote c m) :
    ∃ q, IsQuote q ∧ c.Passes [q] w.1 ∧ w.2 = m := by
  obtain ⟨q, hq, hpass, hm⟩ := ways_one (by rwa [quote, charOf] at hw)
  rw [holds_within_singles] at hq
  exact ⟨q, by simpa [IsQuote] using hq, hpass, hm⟩

end Pattern

end SecretScan

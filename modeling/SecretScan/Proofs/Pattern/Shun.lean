import Mathlib.Data.List.Forall2
import SecretScan.Proofs.Pattern.Groups

/-!
# Characters that a pattern shuns

A pattern that never consumes a quote cannot look past one. What stands behind the next
quote, or behind the end of the text, makes no difference to it, and neither does what
stands before the cursor, but for the question whether that is a part of a word.
`ways_alike` makes this precise: at two cursors in front of the same text, up to where
the first shunned character or the end comes, the ways to match correspond one to one.

The other half of the matter is what a match has to consume: `needs` tells that no text
over an alphabet can be matched.
-/

namespace SecretScan

namespace Pattern

open Cursor (Passes)

/-- Whether a pattern consumes none of some characters. It may not look around and, unless
edges of words are admitted, it may not depend on its position either. -/
@[simp]
def shuns (edges : Bool) (bad : List Char) : Pattern → Bool
  | empty => true
  | one test => bad.all fun c => !test.holds c
  | anchor (.boundary .unicode false) => edges && bad.all fun c => !Text.isWord c
  | anchor _ => false
  | seq p q => p.shuns edges bad && q.shuns edges bad
  | alt p q => p.shuns edges bad && q.shuns edges bad
  | times greed _ _ body => decide (greed ≠ .possessive) && body.shuns edges bad
  | group _ body => body.shuns edges bad
  | again _ _ => false
  | ahead _ _ => false
  | behind _ _ _ => false
  | atomic _ => false
  | ifGroup _ _ _ => false

/-- Whether every text that a pattern consumes has a character outside an alphabet. -/
def needs (alphabet : List Char) : Pattern → Bool
  | one test => alphabet.all fun c => !test.holds c
  | seq p q => p.needs alphabet || q.needs alphabet
  | alt p q => p.needs alphabet && q.needs alphabet
  | times greed least _ body =>
    decide (greed ≠ .possessive) && decide (0 < least) && body.needs alphabet
  | group _ body => body.needs alphabet
  | _ => false

/-- Whether a pattern consumes at least one character. -/
def eats (p : Pattern) : Bool := p.needs []

/-- Whether a text begins with a character of a word. -/
def beginsWord : List Char → Bool
  | [] => false
  | c :: _ => Text.isWord c

theorem boundary_holds (c : Cursor) :
    Anchor.holds (.boundary .unicode false) c = (beginsWord c.before != beginsWord c.after) := by
  obtain ⟨before, after, pos⟩ := c
  cases before with
  | nil =>
      cases after with
      | nil => rfl
      | cons a after =>
          show ((false != Text.isWord a) != false) = (false != Text.isWord a)
          rw [Bool.bne_false]
  | cons b before =>
      cases after with
      | nil =>
          show ((Text.isWord b != false) != false) = (Text.isWord b != false)
          rw [Bool.bne_false]
      | cons a after =>
          show ((Text.isWord b != Text.isWord a) != false) = (Text.isWord b != Text.isWord a)
          rw [Bool.bne_false]

/-- A text that is over or goes on with one of some characters. -/
def Stops (bad y : List Char) : Prop := ∀ c ∈ y.head?, c ∈ bad

theorem Stops.nil (bad : List Char) : Stops bad [] := by simp [Stops]

theorem Stops.cons {bad : List Char} {b : Char} (h : b ∈ bad) (y : List Char) :
    Stops bad (b :: y) := by simpa [Stops] using h

/-- Two cursors in front of the same text, up to places where all is cut off. -/
structure Alike (edges : Bool) (y z : List Char) (k l : Nat) (c d : Cursor) : Prop where
  text : ∃ u, c.after = u ++ y ∧ d.after = u ++ z
  edge : edges = true → beginsWord c.before = beginsWord d.before
  pos : c.pos + k = d.pos + l

section Alike

variable {edges : Bool} {bad y z : List Char} {k l : Nat}

theorem Alike.beginsWord_after {c d : Cursor} (h : Alike edges y z k l c d)
    (hbad : ∀ c ∈ bad, Text.isWord c = false) (hy : Stops bad y) (hz : Stops bad z) :
    beginsWord c.after = beginsWord d.after := by
  have hstop : ∀ x, Stops bad x → beginsWord x = false := by
    intro x hx
    cases x with
    | nil => rfl
    | cons a x => exact hbad a (hx a rfl)
  obtain ⟨u, hc, hd⟩ := h.text
  rw [hc, hd]
  cases u with
  | nil => rw [List.nil_append, List.nil_append, hstop y hy, hstop z hz]
  | cons a u => rfl

theorem Alike.last_iff {c d : Cursor} (h : Alike edges y z k l c d) {last last' : Option Nat}
    (hlast : last.map (· + k) = last'.map (· + l)) : last = some c.pos ↔ last' = some d.pos := by
  have hpos := h.pos
  cases last <;> cases last' <;> simp at hlast ⊢
  omega

theorem forall₂_mem {α β : Type} {R : α → β → Prop} {l : List α} {l' : List β}
    (h : List.Forall₂ R l l') : List.Forall₂ (fun a b => R a b ∧ a ∈ l ∧ b ∈ l') l l' := by
  induction h with
  | nil => exact .nil
  | cons hab h ih =>
      refine .cons ⟨hab, List.mem_cons_self, List.mem_cons_self⟩ (ih.imp ?_)
      rintro a b ⟨h, ha, hb⟩
      exact ⟨h, List.mem_cons_of_mem _ ha, List.mem_cons_of_mem _ hb⟩

/-- A budget that the rounds of a repetition from a cursor on do not use up: `least` of them are
still required, and `last` is where the previous optional one began. -/
def Suffices (least : Nat) (last : Option Nat) (c : Cursor) (fuel : Nat) : Prop :=
  least + c.after.length + 2 ≤ fuel ∨ (least = 0 ∧ last = some c.pos ∧ 1 ≤ fuel)

theorem Suffices.exists_succ {least fuel : Nat} {last : Option Nat} {c : Cursor}
    (h : Suffices least last c fuel) : ∃ n, fuel = n + 1 := by
  rcases h with h | ⟨_, _, h⟩ <;> exact ⟨fuel - 1, by omega⟩

/-- What is left of a budget after a required round. -/
theorem Suffices.required {least fuel : Nat} {last : Option Nat} {c d : Cursor} {u : List Char}
    (h : Suffices (least + 1) last c (fuel + 1)) (hu : Passes c u d) :
    Suffices least last d fuel := by
  have hlen := congrArg List.length hu.after
  rw [List.length_append] at hlen
  rcases h with h | ⟨h, _⟩
  · exact Or.inl (by omega)
  · omega

/-- What is left of a budget after an optional round. -/
theorem Suffices.optional {fuel : Nat} {last : Option Nat} {c d : Cursor} {u : List Char}
    (h : Suffices 0 last c (fuel + 1)) (hlast : last ≠ some c.pos) (hu : Passes c u d) :
    Suffices 0 (some c.pos) d fuel := by
  have hlen := congrArg List.length hu.after
  have hpos := hu.pos
  rw [List.length_append] at hlen
  have hfuel : c.after.length + 1 ≤ fuel := by
    rcases h with h | ⟨_, h, _⟩
    · omega
    · exact absurd h hlast
  cases u with
  | nil =>
      rw [List.length_nil] at hpos
      exact Or.inr ⟨rfl, by rw [hpos]; rfl, by omega⟩
  | cons a u =>
      rw [List.length_cons] at hlen
      exact Or.inl (by omega)

/-- Rounds correspond as soon as the ways through the body do. The budgets need not be
the same, as long as both suffice: a round that consumes nothing is the last one, and
any other leaves fewer characters. -/
theorem rounds_alike {body : Cursor → Marks → List (Cursor × Marks)}
    (hpass : ∀ c m, ∀ w ∈ body c m, ∃ u, Passes c u w.1)
    (hbody : ∀ {c d : Cursor} (m n : Marks), Alike edges y z k l c d →
      List.Forall₂ (fun v w => Alike edges y z k l v.1 w.1) (body c m) (body d n))
    (greedy : Bool) : ∀ (fuel fuel' least : Nat) (most last last' : Option Nat) {c d : Cursor}
      (m n : Marks), Alike edges y z k l c d → last.map (· + k) = last'.map (· + l) →
      Suffices least last c fuel → Suffices least last' d fuel' →
      List.Forall₂ (fun v w => Alike edges y z k l v.1 w.1)
        (rounds body greedy fuel least most last c m)
        (rounds body greedy fuel' least most last' d n) := by
  intro fuel
  induction fuel with
  | zero =>
      intro fuel' least most last last' c d m n _ _ hfuel
      obtain ⟨_, h⟩ := hfuel.exists_succ
      cases h
  | succ fuel ih =>
      intro fuel' least most last last' c d m n h hlast hfuel hfuel'
      obtain ⟨fuel', rfl⟩ := hfuel'.exists_succ
      -- a way through the body, and the rounds behind it
      have hmore : ∀ least most last last', last.map (· + k) = last'.map (· + l) →
          (∀ (v : Cursor × Marks) u, Passes c u v.1 → Suffices least last v.1 fuel) →
          (∀ (v : Cursor × Marks) u, Passes d u v.1 → Suffices least last' v.1 fuel') →
          List.Forall₂ (fun v w => Alike edges y z k l v.1 w.1)
            ((body c m).flatMap fun w => rounds body greedy fuel least most last w.1 w.2)
            ((body d n).flatMap fun w => rounds body greedy fuel' least most last' w.1 w.2) := by
        intro least most last last' hlast hfuel hfuel'
        refine List.rel_flatMap (forall₂_mem (hbody m n h)) ?_
        rintro v w ⟨hvw, hv, hw⟩
        obtain ⟨u, hu⟩ := hpass c m v hv
        obtain ⟨u', hu'⟩ := hpass d n w hw
        exact ih fuel' least most last last' v.2 w.2 hvw hlast (hfuel v u hu) (hfuel' w u' hu')
      cases least with
      | succ least =>
          rw [rounds, rounds]
          exact hmore least _ last last' hlast (fun v u hu => hfuel.required hu)
            fun v u hu => hfuel'.required hu
      | zero =>
          have hsame : decide (last = some c.pos) = decide (last' = some d.pos) :=
            decide_eq_decide.2 (h.last_iff hlast)
          rw [rounds, rounds, ← hsame]
          split
          · exact .cons h .nil
          · next hgo =>
              have hlast : last ≠ some c.pos := by
                intro heq
                simp [heq] at hgo
              have hlast' : last' ≠ some d.pos := by
                intro heq
                exact hlast (decide_eq_decide.1 hsame |>.2 heq)
              have hrest := hmore 0 (most.map (· - 1)) (some c.pos) (some d.pos)
                (congrArg some h.pos) (fun v u hu => hfuel.optional hlast hu)
                fun v u hu => hfuel'.optional hlast' hu
              simp only []
              split
              · exact List.rel_append hrest (.cons h .nil)
              · exact .cons h hrest

/-- At two cursors in front of the same text the ways to match correspond. -/
theorem ways_alike {p : Pattern} (hy : Stops bad y) (hz : Stops bad z) :
    p.shuns edges bad = true → ∀ {c d : Cursor} (m n : Marks), Alike edges y z k l c d →
      List.Forall₂ (fun v w => Alike edges y z k l v.1 w.1) (ways p c m) (ways p d n) := by
  induction p with
  | empty =>
      intro _ c d m n h
      rw [ways, ways]
      exact .cons h .nil
  | one test =>
      intro htest c d m n h
      have hnone : ∀ (x : List Char), Stops bad x → ∀ before pos m,
          ways (one test) ⟨before, x, pos⟩ m = [] := by
        intro x hx before pos m
        cases x with
        | nil => rfl
        | cons a x =>
            have ha := List.all_eq_true.1 htest a (hx a rfl)
            rw [Bool.not_eq_true'] at ha
            simp only [ways, ha]
            rfl
      obtain ⟨⟨before, after, pos⟩, before', after', pos'⟩ := c, d
      obtain ⟨⟨u, hu, hu'⟩, -, hpos⟩ := h
      simp only at hu hu' hpos
      subst hu hu'
      cases u with
      | nil =>
          rw [List.nil_append, List.nil_append, hnone y hy, hnone z hz]
          exact .nil
      | cons a u =>
          simp only [List.cons_append, ways]
          split
          · refine .cons ⟨⟨u, rfl, rfl⟩, fun _ => rfl, ?_⟩ .nil
            show pos + 1 + k = pos' + 1 + l
            omega
          · exact .nil
  | anchor a =>
      intro ha c d m n h
      have hboundary : a = .boundary .unicode false ∧ edges = true ∧
          ∀ c ∈ bad, Text.isWord c = false := by
        cases a with
        | boundary scope negated =>
            cases scope <;> cases negated <;> simp at ha
            exact ⟨rfl, ha⟩
        | _ => simp at ha
      obtain ⟨rfl, hedges, hbad⟩ := hboundary
      rw [ways, ways, boundary_holds, boundary_holds, h.edge hedges,
        h.beginsWord_after hbad hy hz]
      split
      · exact .cons h .nil
      · exact .nil
  | seq p q ihp ihq =>
      intro hpq c d m n h
      rw [shuns, Bool.and_eq_true] at hpq
      rw [ways, ways]
      exact List.rel_flatMap (ihp hpq.1 m n h) fun v w hvw => ihq hpq.2 v.2 w.2 hvw
  | alt p q ihp ihq =>
      intro hpq c d m n h
      rw [shuns, Bool.and_eq_true] at hpq
      rw [ways, ways]
      exact List.rel_append (ihp hpq.1 m n h) (ihq hpq.2 m n h)
  | times greed least most body ih =>
      intro hbody c d m n h
      rw [shuns, Bool.and_eq_true] at hbody
      have hrounds := fun greedy => rounds_alike (fun c m w hw => ways_passes hw)
        (fun m n h => ih hbody.2 m n h) greedy (least + c.after.length + 2)
        (least + d.after.length + 2) least most none none m n h rfl (Or.inl (Nat.le_refl _))
        (Or.inl (Nat.le_refl _))
      cases greed with
      | greedy => simpa only [ways] using hrounds true
      | lazy => simpa only [ways] using hrounds false
      | possessive => simp at hbody
  | group index body ih =>
      intro hbody c d m n h
      rw [ways, ways]
      rw [List.forall₂_map_left_iff, List.forall₂_map_right_iff]
      exact ih hbody _ _ h
  | again fold index => intro h; simp at h
  | ahead negated body ih => intro h; simp at h
  | behind negated width body ih => intro h; simp at h
  | atomic body ih => intro h; simp at h
  | ifGroup index yes no ihy ihn => intro h; simp at h

end Alike

/-! ## What is consumed -/

/-- A shunned character is not consumed. -/
theorem shuns_passes {edges : Bool} {bad : List Char} {p : Pattern} :
    p.shuns edges bad = true → ∀ {c : Cursor} {m : Marks},
      ∀ w ∈ ways p c m, ∃ u, Passes c u w.1 ∧ ∀ b ∈ bad, b ∉ u := by
  have hrefl : ∀ w : Cursor × Marks, ∃ u, Passes w.1 u w.1 ∧ ∀ b ∈ bad, b ∉ u :=
    fun w => ⟨[], Passes.refl w.1, by simp⟩
  have htrans : ∀ {v w x : Cursor × Marks}, (∃ u, Passes v.1 u w.1 ∧ ∀ b ∈ bad, b ∉ u) →
      (∃ u, Passes w.1 u x.1 ∧ ∀ b ∈ bad, b ∉ u) → ∃ u, Passes v.1 u x.1 ∧ ∀ b ∈ bad, b ∉ u := by
    rintro v w x ⟨u, hu, hbad⟩ ⟨u', hu', hbad'⟩
    refine ⟨u ++ u', hu.trans hu', ?_⟩
    intro b hb hmem
    exact (List.mem_append.1 hmem).elim (hbad b hb) (hbad' b hb)
  induction p with
  | empty =>
      intro _ c m w hw
      rw [ways, List.mem_singleton] at hw
      exact hw ▸ hrefl w
  | one test =>
      intro htest c m w hw
      obtain ⟨a, ha, hpass, _⟩ := ways_one hw
      refine ⟨[a], hpass, ?_⟩
      intro b hb hmem
      rw [List.mem_singleton] at hmem
      have hb := List.all_eq_true.1 htest b hb
      rw [hmem, ha] at hb
      cases hb
  | anchor a =>
      intro _ c m w hw
      rw [ways] at hw
      split at hw
      · rw [List.mem_singleton] at hw
        exact hw ▸ hrefl w
      · cases hw
  | seq p q ihp ihq =>
      intro h c m w hw
      rw [shuns, Bool.and_eq_true] at h
      obtain ⟨v, hv, hw⟩ := List.mem_flatMap.1 (by rwa [ways] at hw)
      exact htrans (v := (c, m)) (ihp h.1 v hv) (ihq h.2 w hw)
  | alt p q ihp ihq =>
      intro h c m w hw
      rw [shuns, Bool.and_eq_true] at h
      rw [ways] at hw
      exact (List.mem_append.1 hw).elim (ihp h.1 w) (ihq h.2 w)
  | times greed least most body ih =>
      intro h c m w hw
      rw [shuns, Bool.and_eq_true] at h
      exact mem_ways_times (R := fun v w => ∃ u, Passes v.1 u w.1 ∧ ∀ b ∈ bad, b ∉ u) hrefl htrans
        (fun c m w hw => ih h.2 w hw) hw
  | group index body ih =>
      intro h c m w hw
      obtain ⟨v, hv, rfl⟩ := List.mem_map.1 (by rwa [ways] at hw)
      exact ih h v hv
  | again fold index => intro h; simp at h
  | ahead negated body ih => intro h; simp at h
  | behind negated width body ih => intro h; simp at h
  | atomic body ih => intro h; simp at h
  | ifGroup index yes no ihy ihn => intro h; simp at h

/-- A character from outside the alphabet is consumed. -/
theorem needs_passes {alphabet : List Char} {p : Pattern} :
    p.needs alphabet = true → ∀ {c : Cursor} {m : Marks},
      ∀ w ∈ ways p c m, ∃ u, Passes c u w.1 ∧ ∃ a ∈ u, a ∉ alphabet := by
  have hleft : ∀ {v w x : Cursor × Marks}, (∃ u, Passes v.1 u w.1 ∧ ∃ a ∈ u, a ∉ alphabet) →
      (∃ u, Passes w.1 u x.1) → ∃ u, Passes v.1 u x.1 ∧ ∃ a ∈ u, a ∉ alphabet := by
    rintro v w x ⟨u, hu, a, ha, hout⟩ ⟨u', hu'⟩
    exact ⟨u ++ u', hu.trans hu', a, List.mem_append_left u' ha, hout⟩
  have hright : ∀ {v w x : Cursor × Marks}, (∃ u, Passes v.1 u w.1) →
      (∃ u, Passes w.1 u x.1 ∧ ∃ a ∈ u, a ∉ alphabet) →
      ∃ u, Passes v.1 u x.1 ∧ ∃ a ∈ u, a ∉ alphabet := by
    rintro v w x ⟨u, hu⟩ ⟨u', hu', a, ha, hout⟩
    exact ⟨u ++ u', hu.trans hu', a, List.mem_append_right u ha, hout⟩
  induction p with
  | one test =>
      intro htest c m w hw
      obtain ⟨a, ha, hpass, _⟩ := ways_one hw
      refine ⟨[a], hpass, a, List.mem_singleton_self a, ?_⟩
      intro hmem
      have hnot := List.all_eq_true.1 htest a hmem
      rw [ha] at hnot
      cases hnot
  | seq p q ihp ihq =>
      intro h c m w hw
      obtain ⟨v, hv, hw⟩ := List.mem_flatMap.1 (by rwa [ways] at hw)
      rcases Bool.or_eq_true_iff.1 h with h | h
      · exact hleft (v := (c, m)) (ihp h v hv) (ways_passes hw)
      · exact hright (v := (c, m)) (ways_passes hv) (ihq h w hw)
  | alt p q ihp ihq =>
      intro h c m w hw
      rw [needs, Bool.and_eq_true] at h
      rw [ways] at hw
      exact (List.mem_append.1 hw).elim (ihp h.1 w) (ihq h.2 w)
  | times greed least most body ih =>
      intro h c m w hw
      simp only [needs, Bool.and_eq_true, decide_eq_true_eq] at h
      obtain ⟨⟨hgreed, hleast⟩, hbody⟩ := h
      obtain ⟨least, rfl⟩ : ∃ n, least = n + 1 := ⟨least - 1, by omega⟩
      -- the first round consumes what is needed, and the others do no harm
      have hrounds : ∀ greedy fuel, ∀ w ∈ rounds (ways body) greedy (fuel + 1) (least + 1) most none
          c m, ∃ u, Passes c u w.1 ∧ ∃ a ∈ u, a ∉ alphabet := by
        intro greedy fuel w hw
        rw [rounds] at hw
        obtain ⟨v, hv, hw⟩ := List.mem_flatMap.1 hw
        refine hleft (v := (c, m)) (ih hbody v hv) ?_
        exact rounds_passes (fun c m w hw => ways_passes hw) greedy fuel least _ none hw
      cases greed with
      | greedy => exact hrounds true _ w (by simpa only [ways] using hw)
      | lazy => exact hrounds false _ w (by simpa only [ways] using hw)
      | possessive => exact absurd rfl hgreed
  | group index body ih =>
      intro h c m w hw
      obtain ⟨v, hv, rfl⟩ := List.mem_map.1 (by rwa [ways] at hw)
      exact ih h v hv
  | _ => intro h; simp [needs] at h

/-- A shunned character is not matched. -/
theorem MatchIn.shuns {edges : Bool} {bad : List Char} {p : Pattern} {s : List Char} {m : Match}
    (hm : MatchIn p s m) (h : p.shuns edges bad = true) : ∀ b ∈ bad, b ∉ m.text := by
  obtain ⟨u, hu, hbad⟩ := shuns_passes h _ hm.way
  have heq : m.text = u := List.append_cancel_right hu.after
  exact heq ▸ hbad

theorem eats_pos {p : Pattern} (h : p.eats = true) {c : Cursor} {m : Marks} {w : Cursor × Marks}
    (hw : w ∈ ways p c m) : c.pos < w.1.pos := by
  obtain ⟨u, hu, a, ha, _⟩ := needs_passes h w hw
  have hlen := List.length_pos_of_mem ha
  rw [hu.pos]
  omega

end Pattern

end SecretScan

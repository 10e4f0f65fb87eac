import SecretScan.Proofs.Pattern.Spots

/-!
# A character at the end of a text

A blank at the end of a line may be consumed by a pattern, so it is not shunned, and still no match
may have it: if whatever is matched ends in something else, every way that goes over the blank is
given up in the end. The blank then adds ways to the parts of a pattern, and none to the pattern.
So ways are compared that have not come to the end of the longer text. They are the ways in the
shorter text, in the same order (`ways_extend`), and the matches are the same (`spots_trailing`).
-/

namespace SecretScan

/-- A cursor in a text that has one more character at its end. -/
def Cursor.extend (z : Char) (c : Cursor) : Cursor := { c with after := c.after ++ [z] }

theorem Cursor.Passes.extend {c d : Cursor} {u : List Char} (h : c.Passes u d) (z : Char) :
    (c.extend z).Passes u (d.extend z) :=
  ⟨by rw [Cursor.extend, h.after, List.append_assoc]; rfl, h.before, h.pos⟩

namespace Pattern

open Cursor (Passes)

/-- Whether a pattern ends no text that it consumes with a character. -/
@[simp]
def sheds (z : Char) : Pattern → Bool
  | empty => true
  | one test => !test.holds z
  | anchor _ => true
  | seq p q => q.sheds z && (q.eats || p.sheds z)
  | alt p q => p.sheds z && q.sheds z
  | times _ _ _ body => body.sheds z
  | group _ body => body.sheds z
  | _ => false

/-- A way that has not come to the end of the text. -/
def isInside (w : Cursor × Marks) : Bool := !w.1.after.isEmpty

/-- A way in a text that has one more character at its end. -/
def extended (z : Char) (w : Cursor × Marks) : Cursor × Marks := (w.1.extend z, w.2)

variable {z : Char}

@[simp] theorem isInside_extended (w : Cursor × Marks) : isInside (extended z w) = true := by
  simp [isInside, extended, Cursor.extend]

theorem filter_isInside_cons (c : Cursor) (m : Marks) (l : List (Cursor × Marks)) :
    ((c.extend z, m) :: l).filter isInside = extended z (c, m) :: l.filter isInside :=
  List.filter_cons_of_pos (isInside_extended (c, m))

/-- What is at the end of a text stays there. -/
theorem isInside_of_passes {c d : Cursor} {u : List Char} (h : c.Passes u d) {m n : Marks}
    (hend : isInside (c, m) = false) : isInside (d, n) = false := by
  have hafter : c.after = [] := by simpa [isInside] using hend
  have hnil := List.append_eq_nil_iff.1 (h.after.symm.trans hafter)
  simp [isInside, hnil.2]

/-- Of what is listed under some items the chosen part is listed under the chosen items, if the
others have no share in it. -/
theorem filter_flatMap_eq_map {α β γ δ : Type} {l : List α} {l' : List γ} {f : α → List β}
    {f' : γ → List δ} {q : α → Bool} {q' : β → Bool} {e : γ → α} {e' : δ → β}
    (h : l.filter q = l'.map e) (hdrop : ∀ a ∈ l, q a = false → (f a).filter q' = [])
    (hkeep : ∀ a ∈ l', (f (e a)).filter q' = (f' a).map e') :
    (l.flatMap f).filter q' = (l'.flatMap f').map e' := by
  have hchosen : (l.flatMap fun a => (f a).filter q') =
      (l.filter q).flatMap fun a => (f a).filter q' := by
    clear h
    induction l with
    | nil => rfl
    | cons a l ih =>
        rw [List.forall_mem_cons] at hdrop
        rw [List.flatMap_cons, List.filter_cons, ih hdrop.2]
        cases hq : q a with
        | false => rw [hdrop.1 hq]; rfl
        | true => rfl
  rw [List.filter_flatMap, hchosen, h, List.flatMap_map, List.map_flatMap]
  exact List.flatMap_congr hkeep

/-! ## Ways -/

/-- Rounds correspond as soon as the ways through the body do, whatever the budgets are. -/
theorem rounds_extend {body : Cursor → Marks → List (Cursor × Marks)}
    (hpass : ∀ c m, ∀ w ∈ body c m, ∃ u, Passes c u w.1)
    (hbody : ∀ c m, (body (c.extend z) m).filter isInside = (body c m).map (extended z))
    (greedy : Bool) : ∀ (fuel fuel' least : Nat) (most last : Option Nat) (c : Cursor) (m : Marks),
      Suffices least last c fuel → Suffices least last (c.extend z) fuel' →
      (rounds body greedy fuel' least most last (c.extend z) m).filter isInside =
        (rounds body greedy fuel least most last c m).map (extended z) := by
  have hend : ∀ (fuel least : Nat) (most last : Option Nat) (w : Cursor × Marks),
      isInside w = false →
        (rounds body greedy fuel least most last w.1 w.2).filter isInside = [] := by
    intro fuel least most last w hw
    refine List.filter_eq_nil_iff.2 fun v hv => ?_
    obtain ⟨u, hu⟩ := rounds_passes hpass greedy fuel least most last hv
    rw [isInside_of_passes hu (m := w.2) (n := v.2) hw]
    exact Bool.false_ne_true
  intro fuel
  induction fuel with
  | zero =>
      intro fuel' least most last c m hfuel
      obtain ⟨_, h⟩ := hfuel.exists_succ
      cases h
  | succ fuel ih =>
      intro fuel' least most last c m hfuel hfuel'
      obtain ⟨fuel', rfl⟩ := hfuel'.exists_succ
      -- a way through the body, and the rounds behind it
      have hmore : ∀ least most last,
          (∀ (v : Cursor × Marks) u, Passes c u v.1 → Suffices least last v.1 fuel) →
          (∀ (v : Cursor × Marks) u, Passes (c.extend z) u v.1 → Suffices least last v.1 fuel') →
          ((body (c.extend z) m).flatMap fun w =>
            rounds body greedy fuel' least most last w.1 w.2).filter isInside =
          ((body c m).flatMap fun w => rounds body greedy fuel least most last w.1 w.2).map
            (extended z) := by
        intro least most last hfuel hfuel'
        refine filter_flatMap_eq_map (hbody c m) (fun w _ hw => hend _ _ _ _ w hw) fun v hv => ?_
        obtain ⟨u, hu⟩ := hpass c m v hv
        exact ih fuel' least most last v.1 v.2 (hfuel v u hu)
          (hfuel' (extended z v) u (hu.extend z))
      cases least with
      | succ least =>
          rw [rounds, rounds]
          exact hmore least _ last (fun v u hu => hfuel.required hu)
            fun v u hu => hfuel'.required hu
      | zero =>
          rw [rounds, rounds]
          show List.filter isInside
            (if (decide (most = some 0) || decide (last = some c.pos)) = true then _ else _) = _
          split
          · exact filter_isInside_cons c m []
          · next hgo =>
              have hlast : last ≠ some c.pos := by
                intro heq
                simp [heq] at hgo
              have hrest := hmore 0 (most.map (· - 1)) (some c.pos)
                (fun v u hu => hfuel.optional hlast hu) fun v u hu => hfuel'.optional hlast hu
              simp only []
              split
              · rw [List.filter_append, filter_isInside_cons, List.map_append]
                exact congrArg (· ++ _) hrest
              · rw [filter_isInside_cons, List.map_cons]
                exact congrArg _ hrest

/-- The ways in a longer text that do not come to its end are the ways in the shorter text. -/
theorem ways_extend (hz : Text.isWord z = false) {p : Pattern} :
    p.shuns true [] = true → ∀ (c : Cursor) (m : Marks),
      (ways p (c.extend z) m).filter isInside = (ways p c m).map (extended z) := by
  induction p with
  | empty => intro _ c m; exact filter_isInside_cons c m []
  | one test =>
      intro _ c m
      obtain ⟨before, after, pos⟩ := c
      cases after with
      | nil =>
          show List.filter isInside
            (if test.holds z then [(⟨z :: before, [], pos + 1⟩, m)] else []) = []
          split <;> rfl
      | cons a after =>
          simp only [Cursor.extend, List.cons_append, ways]
          split
          · exact filter_isInside_cons ⟨a :: before, after, pos + 1⟩ m []
          · rfl
  | anchor a =>
      intro ha c m
      have hboundary : a = .boundary .unicode false := by
        cases a with
        | boundary scope negated => cases scope <;> cases negated <;> simp at ha ⊢
        | _ => simp at ha
      have hword : beginsWord (c.after ++ [z]) = beginsWord c.after := by
        cases c.after with
        | nil => exact hz
        | cons a after => rfl
      have hholds : Anchor.holds a (c.extend z) = a.holds c := by
        rw [hboundary, boundary_holds, boundary_holds]
        exact congrArg (beginsWord c.before != ·) hword
      rw [ways, ways, hholds]
      split
      · exact filter_isInside_cons c m []
      · rfl
  | seq p q ihp ihq =>
      intro hpq c m
      rw [shuns, Bool.and_eq_true] at hpq
      rw [ways, ways]
      refine filter_flatMap_eq_map (ihp hpq.1 c m) (fun w _ hw => ?_) fun v _ => ihq hpq.2 v.1 v.2
      refine List.filter_eq_nil_iff.2 fun v hv => ?_
      obtain ⟨u, hu⟩ := ways_passes hv
      rw [isInside_of_passes hu (m := w.2) (n := v.2) hw]
      exact Bool.false_ne_true
  | alt p q ihp ihq =>
      intro hpq c m
      rw [shuns, Bool.and_eq_true] at hpq
      rw [ways, ways, List.filter_append, ihp hpq.1, ihq hpq.2, List.map_append]
  | times greed least most body ih =>
      intro hbody c m
      rw [shuns, Bool.and_eq_true] at hbody
      have hpass : ∀ c m, ∀ w ∈ ways body c m, ∃ u, Passes c u w.1 := fun _ _ _ => ways_passes
      have hrounds := fun greedy => rounds_extend hpass (ih hbody.2) greedy
        (least + c.after.length + 2) (least + (c.extend z).after.length + 2) least most none
        c m (Or.inl (Nat.le_refl _)) (Or.inl (Nat.le_refl _))
      cases greed with
      | greedy => simpa only [ways] using hrounds true
      | lazy => simpa only [ways] using hrounds false
      | possessive => simp at hbody
  | group index body ih =>
      intro hbody c m
      have h := ih hbody c (m.openGroup index c.pos)
      rw [ways, ways, List.filter_map, List.map_map]
      exact (congrArg (List.map fun w => (w.1, w.2.closeGroup index w.1.pos)) h).trans
        List.map_map
  | again fold index => intro h; simp at h
  | ahead negated body ih => intro h; simp at h
  | behind negated width body ih => intro h; simp at h
  | atomic body ih => intro h; simp at h
  | ifGroup index yes no ihy ihn => intro h; simp at h

/-- What is consumed does not end with a character that is shed. -/
theorem sheds_passes {p : Pattern} : p.sheds z = true → ∀ {c : Cursor} {m : Marks},
    ∀ w ∈ ways p c m, ∃ u, Passes c u w.1 ∧ u.getLast? ≠ some z := by
  have hrefl : ∀ w : Cursor × Marks, ∃ u, Passes w.1 u w.1 ∧ u.getLast? ≠ some z :=
    fun w => ⟨[], Passes.refl w.1, nofun⟩
  have htrans : ∀ {v w x : Cursor × Marks}, (∃ u, Passes v.1 u w.1 ∧ u.getLast? ≠ some z) →
      (∃ u, Passes w.1 u x.1 ∧ u.getLast? ≠ some z) →
        ∃ u, Passes v.1 u x.1 ∧ u.getLast? ≠ some z := by
    rintro v w x ⟨u, hu, hlast⟩ ⟨u', hu', hlast'⟩
    refine ⟨u ++ u', hu.trans hu', ?_⟩
    rw [List.getLast?_append]
    cases hget : u'.getLast? with
    | none => exact hlast
    | some a => rwa [hget] at hlast'
  induction p with
  | empty =>
      intro _ c m w hw
      rw [ways, List.mem_singleton] at hw
      exact hw ▸ hrefl w
  | one test =>
      intro htest c m w hw
      obtain ⟨a, ha, hpass, _⟩ := ways_one hw
      refine ⟨[a], hpass, ?_⟩
      rintro heq
      obtain rfl : a = z := by simpa using heq
      rw [sheds, ha] at htest
      cases htest
  | anchor a => intro _ c m w hw; exact ways_anchor hw ▸ hrefl (c, m)
  | seq p q ihp ihq =>
      intro h c m w hw
      rw [sheds, Bool.and_eq_true, Bool.or_eq_true] at h
      obtain ⟨v, hv, hw⟩ := List.mem_flatMap.1 (by rwa [ways] at hw)
      rcases h.2 with heats | hp
      · obtain ⟨u, hu, hlast⟩ := ihq h.1 w hw
        obtain ⟨u', hu'⟩ := ways_passes hv
        obtain ⟨u'', hu'', a, ha, -⟩ := needs_passes heats w hw
        obtain rfl : u = u'' := hu.take_eq.symm.trans hu''.take_eq
        refine ⟨u' ++ u, hu'.trans hu, ?_⟩
        rwa [List.getLast?_append_of_ne_nil _ (List.ne_nil_of_mem ha)]
      · exact htrans (v := (c, m)) (ihp hp v hv) (ihq h.1 w hw)
  | alt p q ihp ihq =>
      intro h c m w hw
      rw [sheds, Bool.and_eq_true] at h
      rw [ways] at hw
      exact (List.mem_append.1 hw).elim (ihp h.1 w) (ihq h.2 w)
  | times greed least most body ih =>
      intro h c m w hw
      exact mem_ways_times (R := fun v w => ∃ u, Passes v.1 u w.1 ∧ u.getLast? ≠ some z) hrefl
        htrans (fun c m w hw => ih h w hw) hw
  | group index body ih =>
      intro h c m w hw
      obtain ⟨v, hv, rfl⟩ := List.mem_map.1 (by rwa [ways] at hw)
      exact ih h v hv
  | again fold index => intro h; simp at h
  | ahead negated body ih => intro h; simp at h
  | behind negated width body ih => intro h; simp at h
  | atomic body ih => intro h; simp at h
  | ifGroup index yes no ihy ihn => intro h; simp at h

/-! ## Matches -/

section Matches

variable {p : Pattern} (hz : Text.isWord z = false) (hp : p.shuns true [] = true)
  (hsheds : p.sheds z = true) (heats : p.eats = true)

include hz hp hsheds

/-- No way comes to the end of the longer text, so it has no other ways. -/
theorem ways_extended (c : Cursor) (m : Marks) :
    ways p (c.extend z) m = (ways p c m).map (extended z) := by
  rw [← ways_extend hz hp, List.filter_eq_self.2]
  intro w hw
  obtain ⟨u, hu, hlast⟩ := sheds_passes hsheds w hw
  have hafter : c.after ++ [z] = u ++ w.1.after := hu.after
  rw [isInside, Bool.not_eq_true', List.isEmpty_eq_false_iff]
  intro hnil
  rw [hnil, List.append_nil] at hafter
  rw [← hafter, List.getLast?_concat] at hlast
  exact hlast rfl

theorem matchAt?_extend (c : Cursor) :
    (p.matchAt? false (c.extend z)).map (·.text) = (p.matchAt? false c).map (·.text) := by
  rw [matchAt?_false, matchAt?_false, ways_extended hz hp hsheds, List.head?_map, Option.map_map,
    Option.map_map, Option.map_map]
  cases hw : (ways p c []).head? with
  | none => rfl
  | some w =>
      obtain ⟨u, hu⟩ := ways_passes (List.mem_of_head? hw)
      exact congrArg some ((hu.extend z).take_eq.trans hu.take_eq.symm)

include heats in
theorem spots_collect_extend : ∀ (u before : List Char) (pos skip : Nat), skip ≤ u.length →
    spots (p.collect before pos skip (u ++ [z])) = spots (p.collect before pos skip u) := by
  intro u
  induction u with
  | nil =>
      intro before pos skip hskip
      obtain rfl : skip = 0 := by simpa using hskip
      have hmatch := matchAt?_extend hz hp hsheds ⟨before, [], pos⟩
      rw [matchAt?_stops hp heats (Stops.nil []), Option.map_none, Option.map_eq_none_iff] at hmatch
      have hmatch : p.matchAt? false ⟨before, [z], pos⟩ = none := hmatch
      rw [List.nil_append, collect_cons heats, hmatch, collect_nil hp heats, collect_nil hp heats]
  | cons a u ih =>
      intro before pos skip hskip
      cases skip with
      | succ skip =>
          rw [List.cons_append, collect, collect]
          exact ih _ _ skip (by simpa using hskip)
      | zero =>
          have hmatch := matchAt?_extend hz hp hsheds ⟨before, a :: u, pos⟩
          rw [Cursor.extend, List.cons_append] at hmatch
          rw [List.cons_append, collect_cons heats, collect_cons heats]
          cases hm : p.matchAt? false ⟨before, a :: u, pos⟩ with
          | none =>
              rw [hm, Option.map_none, Option.map_eq_none_iff] at hmatch
              rw [hmatch]
              exact ih _ _ 0 (Nat.zero_le _)
          | some m =>
              rw [hm, Option.map_some] at hmatch
              obtain ⟨n, hn, htext⟩ := Option.map_eq_some_iff.1 hmatch
              have hlen := matchAt?_length_le hm
              rw [List.length_cons] at hlen
              have hrest := ih (a :: before) (pos + 1) (m.text.length - 1) (by omega)
              simp only [spots] at hrest ⊢
              rw [hn]
              simp only [List.map_cons]
              rw [matchAt?_start hm, matchAt?_start hn, htext, hrest]

include heats in
/-- What is shed makes no difference at the end of a text. -/
theorem spots_trailing (s : List Char) : spots (p.allIn (s ++ [z])) = spots (p.allIn s) :=
  spots_collect_extend hz hp hsheds heats s [] 0 0 (Nat.zero_le _)

end Matches

end Pattern

end SecretScan

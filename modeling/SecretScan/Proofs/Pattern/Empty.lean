import SecretScan.Pattern.Width
import SecretScan.Proofs.Pattern.Reads

/-!
# Empty matches

A rule is turned down if its pattern matches the empty text. That does not keep the pattern from
matching nothing in front of some text: `\b` finds no place in the empty text, and two in every
word.

A pattern that may match nothing at all, as far as the widths of its parts tell, and that asks at
such a place about the text around it, is said to lean (`leans`). If a pattern does not lean, an
empty match of it can be repeated in the empty text, step by step (`ways_nothing`). The one thing
that need not be the same there is what the groups have matched. So it is settled beforehand which
marks correspond: any two, if no part of the pattern refers to a group; and else those that differ
in the place only, which asks that no part of the pattern gives up other ways for the first one,
because the first way need not be an empty one.
-/

namespace SecretScan

namespace Pattern

open Cursor (Passes)

/-! ## The least width -/

/-- Whether a pattern may match nothing, as far as the widths of its parts tell. -/
def maybeEmpty (p : Pattern) : Bool := (p.width []).least == 0

theorem clamp_least_le (w : PatternWidth) : w.clamp.least ≤ w.least := Nat.min_le_left _ _

theorem rounds_least {body : Cursor → Marks → List (Cursor × Marks)} {n : Nat}
    (hbody : ∀ c m, ∀ w ∈ body c m, ∃ u, Passes c u w.1 ∧ n ≤ u.length) (greedy : Bool) :
    ∀ (fuel least : Nat) (most last : Option Nat) (c : Cursor) (m : Marks), least ≤ fuel →
      ∀ w ∈ rounds body greedy fuel least most last c m,
        ∃ u, Passes c u w.1 ∧ n * least ≤ u.length := by
  intro fuel least
  induction least generalizing fuel with
  | zero =>
      intro most last c m _ w hw
      have hpass : ∀ c m, ∀ w ∈ body c m, ∃ u, Passes c u w.1 := fun c m w hw =>
        (hbody c m w hw).imp fun _ h => h.1
      obtain ⟨u, hu⟩ := rounds_passes hpass greedy fuel 0 most last hw
      exact ⟨u, hu, Nat.zero_le _⟩
  | succ least ih =>
      intro most last c m hfuel w hw
      obtain ⟨fuel, rfl⟩ : ∃ k, fuel = k + 1 := ⟨fuel - 1, by omega⟩
      rw [rounds] at hw
      obtain ⟨v, hv, hw⟩ := List.mem_flatMap.1 hw
      obtain ⟨u, hu, hlen⟩ := hbody c m v hv
      obtain ⟨u', hu', hlen'⟩ := ih fuel _ last v.1 v.2 (by omega) w hw
      refine ⟨u ++ u', hu.trans hu', ?_⟩
      rw [Nat.mul_succ, List.length_append]
      omega

/-- A way to match passes at least as many characters as the least width says. -/
theorem ways_least {p : Pattern} : ∀ {c : Cursor} {m : Marks}, ∀ w ∈ ways p c m,
    ∃ u, Passes c u w.1 ∧ (p.width []).least ≤ u.length := by
  induction p with
  | one test =>
      intro c m w hw
      obtain ⟨a, -, hpass, -⟩ := ways_one hw
      exact ⟨[a], hpass, Nat.le_refl 1⟩
  | seq p q ihp ihq =>
      intro c m w hw
      obtain ⟨v, hv, hw⟩ := List.mem_flatMap.1 (by rwa [ways] at hw)
      obtain ⟨u, hu, hlen⟩ := ihp v hv
      obtain ⟨u', hu', hlen'⟩ := ihq w hw
      refine ⟨u ++ u', hu.trans hu', Nat.le_trans (clamp_least_le _) ?_⟩
      rw [List.length_append]
      exact Nat.add_le_add hlen hlen'
  | alt p q ihp ihq =>
      intro c m w hw
      rw [ways] at hw
      rcases List.mem_append.1 hw with hw | hw
      · obtain ⟨u, hu, hlen⟩ := ihp w hw
        exact ⟨u, hu, Nat.le_trans (Nat.min_le_left _ _) hlen⟩
      · obtain ⟨u, hu, hlen⟩ := ihq w hw
        exact ⟨u, hu, Nat.le_trans (Nat.min_le_right _ _) hlen⟩
  | times greed least most body ih =>
      intro c m w hw
      obtain ⟨greedy, hw⟩ := mem_rounds_of_times hw
      obtain ⟨u, hu, hlen⟩ :=
        rounds_least (fun _ _ => ih) greedy _ least most none c m (by omega) w hw
      exact ⟨u, hu, Nat.le_trans (clamp_least_le _) hlen⟩
  | group index body ih =>
      intro c m w hw
      obtain ⟨v, hv, rfl⟩ := List.mem_map.1 (by rwa [ways] at hw)
      exact ih v hv
  | atomic body ih =>
      intro c m w hw
      rw [ways] at hw
      exact ih w (List.mem_of_mem_take hw)
  | ifGroup index yes no ihy ihn =>
      intro c m w hw
      rw [ways] at hw
      split at hw
      · obtain ⟨u, hu, hlen⟩ := ihy w hw
        exact ⟨u, hu, Nat.le_trans (Nat.min_le_left _ _) hlen⟩
      · obtain ⟨u, hu, hlen⟩ := ihn w hw
        exact ⟨u, hu, Nat.le_trans (Nat.min_le_right _ _) hlen⟩
  | _ =>
      intro c m w hw
      obtain ⟨u, hu⟩ := ways_passes hw
      exact ⟨u, hu, Nat.zero_le _⟩

/-- What matches nothing may match nothing. -/
theorem maybeEmpty_of_way {p : Pattern} {c : Cursor} {m : Marks} {w : Cursor × Marks}
    (hw : w ∈ ways p c m) (hpos : w.1.pos = c.pos) : p.maybeEmpty = true := by
  obtain ⟨u, hu, hlen⟩ := ways_least w hw
  have hzero : (p.width []).least = 0 := by
    have := hu.pos
    omega
  rw [maybeEmpty, hzero]
  rfl

/-! ## Leaning -/

/-- Whether a pattern, where it may match nothing, asks about the text around it. -/
def leans : Pattern → Bool
  | anchor (.boundary _ _) => true
  | ahead negated body | behind negated _ body => !negated || body.maybeEmpty
  | seq p q => (p.leans || q.leans) && (seq p q).maybeEmpty
  | alt p q | ifGroup _ p q => p.leans || q.leans
  | times _ _ _ body | group _ body | atomic body => body.leans
  | empty | one _ | anchor _ | again _ _ => false

/-- Whether some part of a pattern gives up all ways to match but the first one. -/
def keepsFirst : Pattern → Bool
  | times greed _ _ body => decide (greed = .possessive) || body.keepsFirst
  | atomic _ => true
  | seq p q | alt p q | ifGroup _ p q => p.keepsFirst || q.keepsFirst
  | group _ body | ahead _ body | behind _ _ body => body.keepsFirst
  | empty | one _ | anchor _ | again _ _ => false

/-- Whether some part of a pattern depends on what a group has matched. -/
def refersBack : Pattern → Bool
  | again _ _ | ifGroup _ _ _ => true
  | seq p q | alt p q => p.refersBack || q.refersBack
  | times _ _ _ body | group _ body | atomic body | ahead _ body | behind _ _ body =>
    body.refersBack
  | empty | one _ | anchor _ => false

/-! ## An empty match, repeated in the empty text -/

/-- The only place in the empty text. -/
def nowhere : Cursor := .start []

theorem passes_nowhere {u : List Char} {d : Cursor} (h : nowhere.Passes u d) :
    u = [] ∧ d = nowhere := by
  have hu : u = [] := (List.append_eq_nil_iff.1 h.after.symm).1
  subst hu
  exact ⟨rfl, passes_nil h⟩

theorem ways_nowhere {p : Pattern} {m : Marks} {w : Cursor × Marks} (hw : w ∈ ways p nowhere m) :
    w.1 = nowhere := by
  obtain ⟨u, hu⟩ := ways_passes hw
  exact (passes_nowhere hu).2

variable {R : Marks → Marks → Prop} {pos : Nat}

/-- Whatever matches nothing at a place matches nothing in the empty text, and marks that
correspond before it correspond after it. -/
def Echoes (R : Marks → Marks → Prop) (pos : Nat) (ws : Cursor → Marks → List (Cursor × Marks)) :
    Prop :=
  ∀ {c : Cursor} {m n : Marks} {w : Cursor × Marks}, c.pos = pos → R m n → w ∈ ws c m →
    w.1.pos = pos → ∃ n', R w.2 n' ∧ (nowhere, n') ∈ ws nowhere n

/-- One match behind another echoes, given that each of them does. -/
theorem flatMap_echo {body f g : Cursor → Marks → List (Cursor × Marks)} {c : Cursor}
    {m n : Marks} {w : Cursor × Marks} (hbody : Echoes R pos body)
    (hpass : ∀ c m, ∀ w ∈ body c m, ∃ u, Passes c u w.1)
    (hpass' : ∀ c m, ∀ w ∈ f c m, ∃ u, Passes c u w.1)
    (hnext : ∀ v ∈ body c m, v.1.pos = pos → ∀ n₁, R v.2 n₁ → w ∈ f v.1 v.2 →
      ∃ n', R w.2 n' ∧ (nowhere, n') ∈ g nowhere n₁)
    (hc : c.pos = pos) (hm : R m n) (hpos : w.1.pos = pos)
    (hw : w ∈ (body c m).flatMap fun v => f v.1 v.2) :
    ∃ n', R w.2 n' ∧ (nowhere, n') ∈ (body nowhere n).flatMap fun v => g v.1 v.2 := by
  obtain ⟨v, hv, hw⟩ := List.mem_flatMap.1 hw
  obtain ⟨u, hu⟩ := hpass c m v hv
  obtain ⟨u', hu'⟩ := hpass' v.1 v.2 w hw
  -- the two together pass nothing, so neither does the first
  have hvpos : v.1.pos = pos := by
    have := hu.pos
    have := hu'.pos
    omega
  obtain ⟨n₁, hm₁, hn₁⟩ := hbody hc hm hv hvpos
  obtain ⟨n', hm', hn'⟩ := hnext v hv hvpos n₁ hm₁ hw
  exact ⟨n', hm', List.mem_flatMap.2 ⟨_, hn₁, hn'⟩⟩

/-- The rounds of an empty repetition are empty, as many as are required and one more at most. -/
theorem rounds_echo {body : Cursor → Marks → List (Cursor × Marks)}
    (hpass : ∀ c m, ∀ w ∈ body c m, ∃ u, Passes c u w.1) (hbody : Echoes R pos body)
    (greedy : Bool) : ∀ (fuel fuel' least : Nat) (most last last' : Option Nat) {c : Cursor}
      {m n : Marks} {w : Cursor × Marks}, c.pos = pos → R m n →
      (last = some pos ↔ last' = some nowhere.pos) →
      Suffices least last c fuel → Suffices least last' nowhere fuel' →
      w ∈ rounds body greedy fuel least most last c m → w.1.pos = pos →
      ∃ n', R w.2 n' ∧ (nowhere, n') ∈ rounds body greedy fuel' least most last' nowhere n := by
  intro fuel
  induction fuel with
  | zero =>
      intro fuel' least most last last' c m n w _ _ _ hfuel
      obtain ⟨_, h⟩ := hfuel.exists_succ
      cases h
  | succ fuel ih =>
      intro fuel' least most last last' c m n w hc hR hlast hfuel hfuel' hw hpos
      obtain ⟨fuel', rfl⟩ := hfuel'.exists_succ
      -- a round, which is empty as the rounds together are, and the rounds behind it
      have hmore : ∀ least most last last', (last = some pos ↔ last' = some nowhere.pos) →
          (∀ (v : Cursor × Marks) u, Passes c u v.1 → Suffices least last v.1 fuel) →
          Suffices least last' nowhere fuel' →
          (w ∈ (body c m).flatMap fun v => rounds body greedy fuel least most last v.1 v.2) →
          ∃ n', R w.2 n' ∧ (nowhere, n') ∈ (body nowhere n).flatMap fun v =>
            rounds body greedy fuel' least most last' v.1 v.2 := by
        intro least most last last' hlast hfuel hfuel' hw
        refine flatMap_echo (f := rounds body greedy fuel least most last)
          (g := rounds body greedy fuel' least most last') hbody hpass
          (fun c m w hw => rounds_passes hpass greedy fuel least most last hw) ?_ hc hR hpos hw
        intro v hv hvpos n₁ hR₁ hw
        obtain ⟨u, hu⟩ := hpass c m v hv
        exact ih fuel' least most last last' hvpos hR₁ hlast (hfuel v u hu) hfuel' hw hpos
      cases least with
      | succ least =>
          rw [rounds] at hw ⊢
          exact hmore least _ last last' hlast (fun v u hu => hfuel.required hu)
            (hfuel'.required (Passes.refl nowhere)) hw
      | zero =>
          have hsame : decide (last = some c.pos) = decide (last' = some nowhere.pos) :=
            decide_eq_decide.2 (hc ▸ hlast)
          rw [rounds] at hw ⊢
          rw [← hsame]
          split at hw
          · next hstop =>
              rw [List.mem_singleton] at hw
              rw [if_pos hstop]
              exact ⟨n, hw ▸ hR, List.mem_singleton_self _⟩
          · next hgo =>
              rw [if_neg hgo]
              have hlast : last ≠ some c.pos := fun heq => by simp [heq] at hgo
              have hlast' : last' ≠ some nowhere.pos := fun heq =>
                hlast ((decide_eq_decide.1 hsame).2 heq)
              have hround := hmore 0 (most.map (· - 1)) (some c.pos) (some nowhere.pos)
                (by rw [hc]; exact ⟨fun _ => rfl, fun _ => rfl⟩)
                (fun v u hu => hfuel.optional hlast hu)
                (hfuel'.optional hlast' (Passes.refl nowhere))
              simp only [] at hw ⊢
              split at hw
              · next hgreedy =>
                  rw [if_pos hgreedy]
                  rcases List.mem_append.1 hw with hw | hw
                  · obtain ⟨n', hR', hn'⟩ := hround hw
                    exact ⟨n', hR', List.mem_append_left _ hn'⟩
                  · rw [List.mem_singleton] at hw
                    exact ⟨n, hw ▸ hR, List.mem_append_right _ (List.mem_singleton_self _)⟩
              · next hlazy =>
                  rw [if_neg hlazy]
                  rcases List.mem_cons.1 hw with hw | hw
                  · exact ⟨n, hw ▸ hR, List.mem_cons_self⟩
                  · obtain ⟨n', hR', hn'⟩ := hround hw
                    exact ⟨n', hR', List.mem_cons_of_mem _ hn'⟩

/-- Marks that correspond do so when a group opens or closes, at a place and nowhere. -/
structure Corresponds (R : Marks → Marks → Prop) (pos : Nat) : Prop where
  opened : ∀ {m n : Marks}, R m n → ∀ index,
    R (m.openGroup index pos) (n.openGroup index nowhere.pos)
  closed : ∀ {m n : Marks}, R m n → ∀ index,
    R (m.closeGroup index pos) (n.closeGroup index nowhere.pos)

/-- Marks correspond as far as it matters to a pattern. -/
structure Suits (R : Marks → Marks → Prop) (p : Pattern) : Prop where
  /-- It may be another way that is the first one. -/
  any : p.keepsFirst = true → ∀ m n, R m n
  spans : p.refersBack = true → ∀ {m n : Marks}, R m n → ∀ index,
    n.span? index = (m.span? index).map fun _ => (nowhere.pos, nowhere.pos)

theorem Suits.part {p q : Pattern} (h : Suits R q)
    (hfirst : p.keepsFirst = true → q.keepsFirst = true)
    (hback : p.refersBack = true → q.refersBack = true) : Suits R p :=
  ⟨fun hp => h.any (hfirst hp), fun hp => h.spans (hback hp)⟩

theorem holds_nowhere {a : Anchor} (h : (anchor a).leans = false) : a.holds nowhere = true := by
  cases a with
  | boundary scope negated => cases h
  | _ => rfl

theorem mem_guarded_true {c : Cursor} {m : Marks} {ws : List (Cursor × Marks)}
    {w : Cursor × Marks} (hw : w ∈ guarded true c m ws) : w.1 = c ∧ w.2 = m := by
  cases ws with
  | nil =>
      rw [List.mem_singleton.1 hw]
      exact ⟨rfl, rfl⟩
  | cons v ws => cases hw

/-- Look-arounds that do not lean ask for what cannot be in the empty text. -/
theorem guarded_nowhere {body : Pattern} (h : body.maybeEmpty = false) (m : Marks) :
    guarded true nowhere m (ways body nowhere m) = [(nowhere, m)] := by
  have hnone : ways body nowhere m = [] := by
    refine List.eq_nil_iff_forall_not_mem.2 fun w hw => ?_
    rw [maybeEmpty_of_way hw (by rw [ways_nowhere hw])] at h
    cases h
  rw [hnone]
  rfl

/-- The first way is an echo as well, if it does not matter what the groups have matched. -/
theorem echoes_first (ws : Cursor → Marks → List (Cursor × Marks)) (h : Echoes R pos ws)
    (hany : ∀ m n, R m n) (hnowhere : ∀ m, ∀ w ∈ ws nowhere m, w.1 = nowhere) :
    Echoes R pos fun c m => (ws c m).take 1 := by
  intro c m n w hc hm hw hpos
  obtain ⟨n', -, hn'⟩ := h hc hm (List.mem_of_mem_take hw) hpos
  cases hws : ws nowhere n with
  | nil =>
      rw [hws] at hn'
      cases hn'
  | cons v vs =>
      have hv : v.1 = nowhere := hnowhere n v (hws ▸ List.mem_cons_self)
      refine ⟨v.2, hany _ _, ?_⟩
      show (nowhere, v.2) ∈ (ws nowhere n).take 1
      rw [hws, ← hv]
      exact List.mem_singleton_self v

theorem Echoes.seq {p q : Pattern} (hp : Echoes R pos (ways p)) (hq : Echoes R pos (ways q)) :
    Echoes R pos (ways (seq p q)) := by
  intro c m n w hc hm hw hpos
  rw [ways] at hw ⊢
  exact flatMap_echo (f := ways q) (g := ways q) hp (fun _ _ _ => ways_passes)
    (fun _ _ _ => ways_passes) (fun _ _ hvpos _ hm₁ hw => hq hvpos hm₁ hw hpos) hc hm hpos hw

theorem Echoes.alt {p q : Pattern} (hp : Echoes R pos (ways p)) (hq : Echoes R pos (ways q)) :
    Echoes R pos (ways (alt p q)) := by
  intro c m n w hc hm hw hpos
  rw [ways] at hw ⊢
  rcases List.mem_append.1 hw with hw | hw
  · obtain ⟨n', hm', hn'⟩ := hp hc hm hw hpos
    exact ⟨n', hm', List.mem_append_left _ hn'⟩
  · obtain ⟨n', hm', hn'⟩ := hq hc hm hw hpos
    exact ⟨n', hm', List.mem_append_right _ hn'⟩

/-- All the rounds of a repetition, as many as the text may take. -/
def allRounds (body : Pattern) (greedy : Bool) (least : Nat) (most : Option Nat) (c : Cursor)
    (m : Marks) : List (Cursor × Marks) :=
  rounds (ways body) greedy (least + c.after.length + 2) least most none c m

theorem allRounds_nowhere {body : Pattern} {greedy : Bool} {least : Nat} {most : Option Nat}
    {m : Marks} {w : Cursor × Marks} (hw : w ∈ allRounds body greedy least most nowhere m) :
    w.1 = nowhere := by
  obtain ⟨u, hu⟩ := rounds_passes (fun _ _ _ => ways_passes) greedy _ _ _ _ hw
  exact (passes_nowhere hu).2

theorem Echoes.times {body : Pattern} (h : Echoes R pos (ways body)) (greed : Greed) (least : Nat)
    (most : Option Nat) (hany : greed = .possessive → ∀ m n, R m n) :
    Echoes R pos (ways (times greed least most body)) := by
  have hall : ∀ greedy, Echoes R pos (allRounds body greedy least most) :=
    fun greedy _ _ _ _ hc hm => rounds_echo (fun _ _ _ => ways_passes) h greedy _ _ least most
      none none hc hm ⟨(by cases ·), (by cases ·)⟩ (.inl (Nat.le_refl _)) (.inl (Nat.le_refl _))
  intro c m n w hc hm hw hpos
  cases greed with
  | greedy =>
      simp only [ways] at hw ⊢
      exact hall true hc hm hw hpos
  | lazy =>
      simp only [ways] at hw ⊢
      exact hall false hc hm hw hpos
  | possessive =>
      simp only [ways] at hw ⊢
      exact echoes_first (allRounds body true least most) (hall true) (hany rfl)
        (fun _ _ => allRounds_nowhere) hc hm hw hpos

theorem Echoes.group {body : Pattern} (hR : Corresponds R pos) (h : Echoes R pos (ways body))
    (index : Nat) : Echoes R pos (ways (group index body)) := by
  intro c m n w hc hm hw hpos
  obtain ⟨v, hv, rfl⟩ := List.mem_map.1 (by rwa [ways] at hw)
  rw [hc] at hv
  simp only [] at hpos ⊢
  obtain ⟨n', hm', hn'⟩ := h hc (hR.opened hm index) hv hpos
  refine ⟨n'.closeGroup index nowhere.pos, ?_, ?_⟩
  · rw [hpos]
    exact hR.closed hm' index
  · rw [ways]
    exact List.mem_map.2 ⟨_, hn', rfl⟩

/-- A group that is referred to has matched nothing in the empty text, if it has matched. -/
theorem echoes_again {fold : Folding} {index : Nat} (h : Suits R (again fold index)) :
    Echoes R pos (ways (again fold index)) := by
  intro c m n w hc hm hw hpos
  have hspan := h.spans rfl hm index
  rw [ways] at hw ⊢
  cases hm' : m.span? index with
  | none =>
      rw [hm'] at hw
      cases hw
  | some span =>
      rw [hm'] at hspan hw
      rw [hspan]
      refine ⟨n, ?_, List.mem_singleton_self _⟩
      simp only [] at hw
      split at hw
      · rw [List.mem_singleton] at hw
        exact hw ▸ hm
      · cases hw

theorem echoes_ahead {body : Pattern} (h : body.maybeEmpty = false) :
    Echoes R pos (ways (ahead true body)) := by
  intro c m n w hc hm hw hpos
  rw [ways] at hw ⊢
  rw [guarded_nowhere h]
  exact ⟨n, (mem_guarded_true hw).2 ▸ hm, List.mem_singleton_self _⟩

theorem echoes_behind {body : Pattern} (h : body.maybeEmpty = false) (width : Nat) :
    Echoes R pos (ways (behind true width body)) := by
  intro c m n w hc hm hw hpos
  have hmarks : w.2 = m := by
    rw [ways] at hw
    split at hw <;> exact (mem_guarded_true hw).2
  refine ⟨n, hmarks ▸ hm, ?_⟩
  rw [ways]
  cases width with
  | zero =>
      show (nowhere, n) ∈ guarded true nowhere n (ways body nowhere n)
      rw [guarded_nowhere h]
      exact List.mem_singleton_self _
  | succ width => exact List.mem_singleton_self _

/-- The same branch is taken in the empty text. -/
theorem Echoes.ifGroup {index : Nat} {yes no : Pattern} (h : Suits R (ifGroup index yes no))
    (hyes : Echoes R pos (ways yes)) (hno : Echoes R pos (ways no)) :
    Echoes R pos (ways (ifGroup index yes no)) := by
  intro c m n w hc hm hw hpos
  have hsome : (n.span? index).isSome = (m.span? index).isSome := by
    rw [h.spans rfl hm index, Option.isSome_map]
  rw [ways] at hw ⊢
  rw [hsome]
  split at hw
  · next hset =>
      rw [if_pos hset]
      exact hyes hc hm hw hpos
  · next hunset =>
      rw [if_neg hunset]
      exact hno hc hm hw hpos

/-- **Nothing, and nothing of it.** What a pattern that does not lean matches at a place without
passing anything, it matches in the empty text. -/
theorem ways_nothing {p : Pattern} (hR : Corresponds R pos) :
    p.leans = false → Suits R p → Echoes R pos (ways p) := by
  induction p with
  | empty =>
      intro _ _ c m n w hc hm hw hpos
      rw [ways, List.mem_singleton] at hw
      exact ⟨n, hw ▸ hm, by rw [ways]; exact List.mem_singleton_self _⟩
  | one test =>
      intro _ _ c m n w hc hm hw hpos
      obtain ⟨a, -, hpass, -⟩ := ways_one hw
      have := hpass.pos
      rw [List.length_singleton] at this
      omega
  | anchor a =>
      intro hleans _ c m n w hc hm hw hpos
      rw [ways_anchor hw, ways, if_pos (holds_nowhere hleans)]
      exact ⟨n, hm, List.mem_singleton_self _⟩
  | seq p q ihp ihq =>
      intro hleans hsuits c m n w hc hm hw hpos
      -- the parts may lean where the whole cannot be empty, which it is here
      have hempty := maybeEmpty_of_way hw (hpos.trans hc.symm)
      rw [leans, hempty, Bool.and_true, Bool.or_eq_false_iff] at hleans
      have hp : Echoes R pos (ways p) := ihp hleans.1 (hsuits.part
        (Bool.or_eq_true_iff.2 <| .inl ·) (Bool.or_eq_true_iff.2 <| .inl ·))
      have hq : Echoes R pos (ways q) := ihq hleans.2 (hsuits.part
        (Bool.or_eq_true_iff.2 <| .inr ·) (Bool.or_eq_true_iff.2 <| .inr ·))
      exact hp.seq hq hc hm hw hpos
  | alt p q ihp ihq =>
      intro hleans hsuits c m n w hc hm hw hpos
      rw [leans, Bool.or_eq_false_iff] at hleans
      have hp : Echoes R pos (ways p) := ihp hleans.1 (hsuits.part
        (Bool.or_eq_true_iff.2 <| .inl ·) (Bool.or_eq_true_iff.2 <| .inl ·))
      have hq : Echoes R pos (ways q) := ihq hleans.2 (hsuits.part
        (Bool.or_eq_true_iff.2 <| .inr ·) (Bool.or_eq_true_iff.2 <| .inr ·))
      exact hp.alt hq hc hm hw hpos
  | times greed least most body ih =>
      intro hleans hsuits c m n w hc hm hw hpos
      have hbody : Echoes R pos (ways body) :=
        ih hleans (hsuits.part (Bool.or_eq_true_iff.2 <| .inr ·) id)
      exact hbody.times greed least most (fun hgreed => hsuits.any (by rw [hgreed]; rfl)) hc hm hw
        hpos
  | group index body ih =>
      intro hleans hsuits c m n w hc hm hw hpos
      have hbody : Echoes R pos (ways body) := ih hleans (hsuits.part id id)
      exact Echoes.group hR hbody index hc hm hw hpos
  | again fold index => exact fun _ hsuits => echoes_again hsuits
  | ahead negated body ih =>
      intro hleans _
      rw [leans, Bool.or_eq_false_iff, Bool.not_eq_false'] at hleans
      obtain ⟨rfl, hbody⟩ := hleans
      exact echoes_ahead hbody
  | behind negated width body ih =>
      intro hleans _
      rw [leans, Bool.or_eq_false_iff, Bool.not_eq_false'] at hleans
      obtain ⟨rfl, hbody⟩ := hleans
      exact echoes_behind hbody width
  | atomic body ih =>
      intro hleans hsuits c m n w hc hm hw hpos
      have hbody : Echoes R pos (ways body) :=
        ih hleans ⟨fun _ => hsuits.any rfl, hsuits.spans⟩
      rw [ways] at hw ⊢
      exact echoes_first (ways body) hbody (hsuits.any rfl) (fun _ _ => ways_nowhere) hc hm hw hpos
  | ifGroup index yes no ihy ihn =>
      intro hleans hsuits c m n w hc hm hw hpos
      rw [leans, Bool.or_eq_false_iff] at hleans
      have hyes : Echoes R pos (ways yes) :=
        ihy hleans.1 (hsuits.part (Bool.or_eq_true_iff.2 <| .inl ·) fun _ => rfl)
      have hno : Echoes R pos (ways no) :=
        ihn hleans.2 (hsuits.part (Bool.or_eq_true_iff.2 <| .inr ·) fun _ => rfl)
      exact Echoes.ifGroup hsuits hyes hno hc hm hw hpos

/-! ## Which marks correspond -/

/-- Marks that all stand at one place, given the groups and whether they are closed. -/
def standing (pos : Nat) (groups : List (Nat × Bool)) : Marks :=
  groups.map fun (index, closed) => ⟨index, pos, if closed then some pos else none⟩

theorem openGroup_standing (index : Nat) (groups : List (Nat × Bool)) :
    ∃ groups', ∀ pos, (standing pos groups).openGroup index pos = standing pos groups' := by
  induction groups with
  | nil => exact ⟨[(index, false)], fun pos => rfl⟩
  | cons g groups ih =>
      obtain ⟨groups', h⟩ := ih
      by_cases hg : g.1 = index
      · exact ⟨(index, g.2) :: groups, fun pos => by
          rw [standing, List.map_cons, Marks.openGroup, if_pos hg, standing, List.map_cons]⟩
      · exact ⟨g :: groups', fun pos => by
          rw [standing, List.map_cons, Marks.openGroup, if_neg hg, ← standing, h]
          rfl⟩

theorem closeGroup_standing (index : Nat) (groups : List (Nat × Bool)) :
    ∃ groups', ∀ pos, (standing pos groups).closeGroup index pos = standing pos groups' := by
  induction groups with
  | nil => exact ⟨[], fun pos => rfl⟩
  | cons g groups ih =>
      obtain ⟨groups', h⟩ := ih
      by_cases hg : g.1 = index
      · exact ⟨(index, true) :: groups, fun pos => by
          rw [standing, List.map_cons, Marks.closeGroup, if_pos hg, standing, List.map_cons]
          rfl⟩
      · exact ⟨g :: groups', fun pos => by
          rw [standing, List.map_cons, Marks.closeGroup, if_neg hg, ← standing, h]
          rfl⟩

theorem span?_standing (pos index : Nat) (groups : List (Nat × Bool)) :
    (standing pos groups).span? index =
      ((groups.find? (·.1 = index)).filter (·.2)).map fun _ => (pos, pos) := by
  have hcomp : (fun m : Mark => decide (m.group = index)) ∘ (fun (g : Nat × Bool) =>
      (⟨g.1, pos, if g.2 then some pos else none⟩ : Mark)) = fun g => decide (g.1 = index) := rfl
  rw [Marks.span?, standing, List.find?_map, hcomp]
  cases groups.find? (·.1 = index) with
  | none => rfl
  | some g =>
      obtain ⟨_, closed⟩ := g
      cases closed with
      | false => rfl
      | true => exact if_pos (Nat.le_refl pos)

theorem corresponds_standing (pos : Nat) :
    Corresponds (fun m n => ∃ groups, m = standing pos groups ∧ n = standing nowhere.pos groups)
      pos where
  opened := by
    rintro _ _ ⟨groups, rfl, rfl⟩ index
    exact (openGroup_standing index groups).imp fun _ h => ⟨h pos, h nowhere.pos⟩
  closed := by
    rintro _ _ ⟨groups, rfl, rfl⟩ index
    exact (closeGroup_standing index groups).imp fun _ h => ⟨h pos, h nowhere.pos⟩

/-- Whether a pattern gives up ways and depends on what groups have matched. -/
def mixes (p : Pattern) : Bool := p.keepsFirst && p.refersBack

/-- An empty match of a pattern that does not lean is a match in the empty text. -/
theorem occursIn_nothing {p : Pattern} (hleans : p.leans = false) (hmixes : p.mixes = false)
    {s : List Char} {m : Match} (hm : MatchIn p s m) (hempty : m.text = []) :
    p.occursIn [] = true := by
  have hpos : m.stop = m.start := by rw [Match.stop, hempty, List.length_nil, Nat.add_zero]
  have hway : ∃ n, (nowhere, n) ∈ ways p nowhere [] := by
    cases hback : p.refersBack with
    | false =>
        have hany : Corresponds (fun _ _ => True) m.start :=
          ⟨fun _ _ => trivial, fun _ _ => trivial⟩
        have hsuits : Suits (fun _ _ => True) p :=
          ⟨fun _ _ _ => trivial, fun h => absurd (hback.symm.trans h) Bool.false_ne_true⟩
        obtain ⟨n, -, hn⟩ := ways_nothing hany hleans hsuits rfl trivial hm.way hpos
        exact ⟨n, hn⟩
    | true =>
        have hfirst : p.keepsFirst = false := by rwa [mixes, hback, Bool.and_true] at hmixes
        have hsuits : Suits (fun m' n => ∃ groups, m' = standing m.start groups ∧
            n = standing nowhere.pos groups) p := by
          refine ⟨fun h => absurd (hfirst.symm.trans h) Bool.false_ne_true, ?_⟩
          rintro - _ _ ⟨groups, rfl, rfl⟩ index
          rw [span?_standing, span?_standing, Option.map_map]
          rfl
        obtain ⟨n, -, hn⟩ := ways_nothing (corresponds_standing m.start) hleans hsuits rfl
          ⟨[], rfl, rfl⟩ hm.way hpos
        exact ⟨n, hn⟩
  obtain ⟨n, hn⟩ := hway
  show (p.matchAt? false nowhere).isSome = true
  rw [matchAt?_false, Option.isSome_map]
  exact List.isSome_head?.2 (List.ne_nil_of_mem hn)

end Pattern

end SecretScan

import SecretScan.Proofs.Pattern.Spots
import SecretScan.Proofs.Scan.Spots

/-!
# The texts that a pattern reads

A flat pattern is made of single characters and runs of single characters, and it does
not look around. Such a pattern has a language, `Reads`, in which backtracking plays no
part: the ways to match go over the texts of the language and over no others.

If texts of the language can never overlap, a walk over a text hides none of them. Then
the matches are the occurrences of texts of the language.
-/

namespace SecretScan

namespace Pattern

open Cursor (Passes)

/-- Whether a pattern repeats single characters only and does not look around. -/
@[simp]
def isFlat : Pattern → Bool
  | empty => true
  | one _ => true
  | seq p q => p.isFlat && q.isFlat
  | alt p q => p.isFlat && q.isFlat
  | times .greedy least most (one _) => most.all (decide <| least ≤ ·)
  | group _ body => body.isFlat
  | _ => false

/-- A text that a pattern reads. -/
inductive Reads : Pattern → List Char → Prop
  | empty : Reads empty []
  | one {test : CharTest} {a : Char} : test.holds a = true → Reads (one test) [a]
  | seq {p q : Pattern} {x y : List Char} : Reads p x → Reads q y → Reads (seq p q) (x ++ y)
  | left {p q : Pattern} {x : List Char} : Reads p x → Reads (alt p q) x
  | right {p q : Pattern} {x : List Char} : Reads q x → Reads (alt p q) x
  | run {least : Nat} {most : Option Nat} {test : CharTest} {x : List Char} :
      (∀ a ∈ x, test.holds a = true) → least ≤ x.length → (∀ n, most = some n → x.length ≤ n) →
      Reads (times .greedy least most (one test)) x
  | group {index : Nat} {body : Pattern} {x : List Char} : Reads body x →
      Reads (group index body) x

/-! ## Runs of single characters -/

theorem passes_cons {a : Char} {x : List Char} {c d : Cursor} (h : c.Passes (a :: x) d) :
    ∃ e, c.Passes [a] e ∧ e.Passes x d := by
  obtain ⟨before, after, pos⟩ := c
  refine ⟨⟨a :: before, x ++ d.after, pos + 1⟩, ⟨h.after, rfl, rfl⟩, ⟨rfl, ?_, ?_⟩⟩
  · rw [h.before, List.reverse_cons, List.append_assoc]
    rfl
  · rw [h.pos, List.length_cons]
    show pos + (x.length + 1) = pos + 1 + x.length
    omega

theorem passes_nil {c d : Cursor} (h : c.Passes [] d) : d = c := by
  rw [h.eq_mk, List.reverse_nil, List.nil_append, List.length_nil, Nat.add_zero,
    show d.after = c.after from h.after.symm]

theorem mem_ways_one {test : CharTest} {a : Char} (ha : test.holds a = true) {c d : Cursor}
    (h : c.Passes [a] d) (m : Marks) : (d, m) ∈ ways (one test) c m := by
  obtain ⟨before, after, pos⟩ := c
  obtain rfl : after = a :: d.after := h.after
  rw [h.eq_mk]
  simp only [ways, ha, if_true, List.mem_singleton]
  rfl

theorem rounds_one_reads {test : CharTest} : ∀ {fuel least : Nat} {most last : Option Nat}
    {c : Cursor} {m : Marks}, least ≤ fuel → (∀ n, most = some n → least ≤ n) →
    ∀ w ∈ rounds (ways (one test)) true fuel least most last c m, ∃ x, c.Passes x w.1 ∧
      (∀ a ∈ x, test.holds a = true) ∧ least ≤ x.length ∧ ∀ n, most = some n → x.length ≤ n := by
  intro fuel
  induction fuel with
  | zero =>
      intro least most last c m hfuel _ w hw
      rw [rounds, List.mem_singleton] at hw
      refine ⟨[], hw ▸ Passes.refl c, by simp, by simpa using hfuel, by simp⟩
  | succ fuel ih =>
      intro least most last c m hfuel hmost w hw
      have hmore : ∀ {least' last'}, least' ≤ fuel → least ≤ least' + 1 →
          (∀ n, most = some n → least' + 1 ≤ n) →
          w ∈ (ways (one test) c m).flatMap (fun v =>
            rounds (ways (one test)) true fuel least' (most.map (· - 1)) last' v.1 v.2) →
          ∃ x, c.Passes x w.1 ∧ (∀ a ∈ x, test.holds a = true) ∧ least ≤ x.length ∧
            ∀ n, most = some n → x.length ≤ n := by
        intro least' last' hfuel hleast hmost hw
        obtain ⟨v, hv, hw⟩ := List.mem_flatMap.1 hw
        obtain ⟨a, ha, hpass, -⟩ := ways_one hv
        have hmost' : ∀ n, most.map (· - 1) = some n → least' ≤ n := by
          intro n hn
          obtain ⟨k, hk, rfl⟩ := Option.map_eq_some_iff.1 hn
          have := hmost k hk
          omega
        obtain ⟨x, hx, hall, hlen, hx'⟩ := ih hfuel hmost' w hw
        refine ⟨[a] ++ x, hpass.trans hx, ?_, ?_, ?_⟩
        · intro b hb
          rcases List.mem_append.1 hb with hb | hb
          · rw [List.mem_singleton.1 hb]
            exact ha
          · exact hall b hb
        · simp only [List.length_append, List.length_singleton]
          omega
        · intro n hn
          have := hmost n hn
          have := hx' (n - 1) (by rw [hn]; rfl)
          simp only [List.length_append, List.length_singleton]
          omega
      have hstay : w = (c, m) → least = 0 → ∃ x, c.Passes x w.1 ∧ (∀ a ∈ x, test.holds a = true) ∧
          least ≤ x.length ∧ ∀ n, most = some n → x.length ≤ n := by
        intro hw hleast
        exact ⟨[], hw ▸ Passes.refl c, by simp, by simp [hleast], by simp⟩
      cases least with
      | succ least =>
          rw [rounds] at hw
          exact hmore (by omega) (Nat.le_refl _) hmost hw
      | zero =>
          rw [rounds] at hw
          split at hw
          · exact hstay (List.mem_singleton.1 hw) rfl
          · next hgo =>
              simp only [if_true, List.mem_append, List.mem_singleton] at hw
              rcases hw with hw | hw
              · refine hmore (Nat.zero_le _) (Nat.zero_le _) ?_ hw
                rintro n rfl
                rcases Nat.eq_zero_or_pos n with rfl | hn
                · simp at hgo
                · exact hn
              · exact hstay hw rfl

theorem mem_rounds_one {test : CharTest} {x : List Char} (hall : ∀ a ∈ x, test.holds a = true) :
    ∀ {fuel least : Nat} {most last : Option Nat} {c d : Cursor} (m : Marks), c.Passes x d →
      least ≤ x.length → (∀ n, most = some n → x.length ≤ n) → (∀ n, last = some n → n < c.pos) →
      x.length < fuel → (d, m) ∈ rounds (ways (one test)) true fuel least most last c m := by
  induction x with
  | nil =>
      intro fuel least most last c d m h hleast _ _ hfuel
      obtain ⟨fuel, rfl⟩ : ∃ n, fuel = n + 1 := ⟨fuel - 1, by omega⟩
      obtain rfl : least = 0 := by simpa using hleast
      rw [passes_nil h, rounds]
      split <;> simp
  | cons a x ih =>
      intro fuel least most last c d m h hleast hmost hlast hfuel
      obtain ⟨fuel, rfl⟩ : ∃ n, fuel = n + 1 := ⟨fuel - 1, by omega⟩
      obtain ⟨e, hce, hed⟩ := passes_cons h
      have hpos : e.pos = c.pos + 1 := hce.pos
      rw [List.length_cons] at hleast hfuel hmost
      have hmore : ∀ {least' last'}, least' ≤ x.length → (∀ n, last' = some n → n < e.pos) →
          (d, m) ∈ (ways (one test) c m).flatMap (fun v =>
            rounds (ways (one test)) true fuel least' (most.map (· - 1)) last' v.1 v.2) := by
        intro least' last' hleast' hlast'
        refine List.mem_flatMap.2 ⟨(e, m), mem_ways_one (hall a List.mem_cons_self) hce m, ?_⟩
        refine ih (fun b hb => hall b (List.mem_cons_of_mem a hb)) m hed hleast' ?_ hlast' (by omega)
        intro n hn
        obtain ⟨k, hk, rfl⟩ := Option.map_eq_some_iff.1 hn
        have := hmost k hk
        omega
      cases least with
      | succ least =>
          rw [rounds]
          refine hmore (by omega) ?_
          intro n hn
          have := hlast n hn
          omega
      | zero =>
          rw [rounds]
          split
          · next hstop =>
              simp only [Bool.or_eq_true, decide_eq_true_eq] at hstop
              rcases hstop with hstop | hstop
              · have := hmost 0 hstop
                omega
              · exact absurd (hlast _ hstop) (Nat.lt_irrefl _)
          · simp only [if_true, List.mem_append]
            left
            refine hmore (Nat.zero_le _) ?_
            intro n hn
            have := Option.some.inj hn
            omega

/-! ## Ways and texts -/

/-- A way goes over a text that the pattern reads. -/
theorem reads_of_way {p : Pattern} : p.isFlat = true → ∀ {c : Cursor} {m : Marks},
    ∀ w ∈ ways p c m, ∃ x, c.Passes x w.1 ∧ Reads p x := by
  induction p with
  | empty =>
      intro _ c m w hw
      rw [ways, List.mem_singleton] at hw
      exact ⟨[], hw ▸ Passes.refl c, .empty⟩
  | one test =>
      intro _ c m w hw
      obtain ⟨a, ha, hpass, _⟩ := ways_one hw
      exact ⟨[a], hpass, .one ha⟩
  | seq p q ihp ihq =>
      intro h c m w hw
      rw [isFlat, Bool.and_eq_true] at h
      obtain ⟨v, hv, hw⟩ := List.mem_flatMap.1 (by rwa [ways] at hw)
      obtain ⟨x, hx, hread⟩ := ihp h.1 v hv
      obtain ⟨y, hy, hread'⟩ := ihq h.2 w hw
      exact ⟨x ++ y, hx.trans hy, .seq hread hread'⟩
  | alt p q ihp ihq =>
      intro h c m w hw
      rw [isFlat, Bool.and_eq_true] at h
      rw [ways] at hw
      rcases List.mem_append.1 hw with hw | hw
      · obtain ⟨x, hx, hread⟩ := ihp h.1 w hw
        exact ⟨x, hx, .left hread⟩
      · obtain ⟨x, hx, hread⟩ := ihq h.2 w hw
        exact ⟨x, hx, .right hread⟩
  | times greed least most body ih =>
      intro h c m w hw
      cases greed with
      | greedy =>
          cases body with
          | one test =>
              have hmost : ∀ n, most = some n → least ≤ n := by
                rintro n rfl
                simpa using h
              simp only [ways] at hw
              obtain ⟨x, hx, hall, hlen, hx'⟩ := rounds_one_reads (by omega) hmost w hw
              exact ⟨x, hx, .run hall hlen hx'⟩
          | _ => simp at h
      | lazy => simp at h
      | possessive => simp at h
  | group index body ih =>
      intro h c m w hw
      obtain ⟨v, hv, rfl⟩ := List.mem_map.1 (by rwa [ways] at hw)
      obtain ⟨x, hx, hread⟩ := ih h v hv
      exact ⟨x, hx, .group hread⟩
  | _ => intro h; simp at h

theorem MatchIn.reads {p : Pattern} (hflat : p.isFlat = true) {s : List Char} {m : Match}
    (hm : MatchIn p s m) : Reads p m.text := by
  obtain ⟨x, hx, hread⟩ := reads_of_way hflat _ hm.way
  have heq : m.text = x := List.append_cancel_right hx.after
  exact heq ▸ hread

theorem passes_append {x y : List Char} {c d : Cursor} (h : c.Passes (x ++ y) d) :
    ∃ e, c.Passes x e ∧ e.Passes y d := by
  refine ⟨⟨x.reverse ++ c.before, y ++ d.after, c.pos + x.length⟩, ⟨?_, rfl, rfl⟩, ⟨rfl, ?_, ?_⟩⟩
  · rw [h.after, List.append_assoc]
  · rw [h.before, List.reverse_append, List.append_assoc]
  · rw [h.pos, List.length_append, Nat.add_assoc]

/-- Wherever a text of the language stands, there is a way over it. -/
theorem Reads.way {p : Pattern} {x : List Char} (h : Reads p x) : ∀ {c d : Cursor} (m : Marks),
    c.Passes x d → ∃ m', (d, m') ∈ ways p c m := by
  induction h with
  | empty =>
      intro c d m h
      rw [passes_nil h]
      exact ⟨m, by rw [ways]; exact List.mem_singleton_self _⟩
  | one ha =>
      intro c d m h
      exact ⟨m, mem_ways_one ha h m⟩
  | seq _ _ ihp ihq =>
      intro c d m h
      obtain ⟨e, hce, hed⟩ := passes_append h
      obtain ⟨m', he⟩ := ihp m hce
      obtain ⟨m'', hd⟩ := ihq m' hed
      exact ⟨m'', mem_ways_seq he hd⟩
  | left _ ih =>
      intro c d m h
      obtain ⟨m', hd⟩ := ih m h
      exact ⟨m', by rw [ways]; exact List.mem_append_left _ hd⟩
  | right _ ih =>
      intro c d m h
      obtain ⟨m', hd⟩ := ih m h
      exact ⟨m', by rw [ways]; exact List.mem_append_right _ hd⟩
  | run hall hleast hmost =>
      intro c d m h
      have hlen := congrArg List.length h.after
      rw [List.length_append] at hlen
      refine ⟨m, ?_⟩
      simp only [ways]
      exact mem_rounds_one hall m h hleast hmost (by simp) (by omega)
  | group _ ih =>
      intro c d m h
      obtain ⟨m', hd⟩ := ih _ h
      exact ⟨_, by rw [ways]; exact List.mem_map.2 ⟨_, hd, rfl⟩⟩

theorem Reads.way_group {body : Pattern} {x : List Char} (h : Reads body x)
    (hbare : body.isBare = true) (index : Nat) {c d : Cursor} (hpass : c.Passes x d) (m : Marks) :
    (d, (m.openGroup index c.pos).closeGroup index d.pos) ∈ ways (Pattern.group index body) c m := by
  obtain ⟨m', hd⟩ := h.way (m.openGroup index c.pos) hpass
  have hm := ways_marks hbare _ hd
  rw [ways]
  exact List.mem_map.2 ⟨_, hd, by rw [hm]⟩

/-! ## Taking texts apart -/

theorem Reads.way_alone {p : Pattern} {x : List Char} (h : Reads p x) :
    ∃ m, (⟨x.reverse ++ [], [], 0 + x.length⟩, m) ∈ ways p ⟨[], x ++ [], 0⟩ [] :=
  h.way [] ⟨rfl, rfl, rfl⟩

theorem Reads.shuns {p : Pattern} {x : List Char} (h : Reads p x) {edges : Bool}
    {bad : List Char} (hp : p.shuns edges bad = true) : ∀ b ∈ bad, b ∉ x := by
  obtain ⟨m, hm⟩ := h.way_alone
  obtain ⟨u, hu, hbad⟩ := shuns_passes hp _ hm
  have heq : u = x := List.append_cancel_right (hu.after.symm.trans rfl)
  exact heq ▸ hbad

theorem Reads.needs {p : Pattern} {x : List Char} (h : Reads p x) {alphabet : List Char}
    (hp : p.needs alphabet = true) : ∃ a ∈ x, a ∉ alphabet := by
  obtain ⟨m, hm⟩ := h.way_alone
  obtain ⟨u, hu, hout⟩ := needs_passes hp _ hm
  have heq : u = x := List.append_cancel_right (hu.after.symm.trans rfl)
  exact heq ▸ hout

theorem reads_seq {p q : Pattern} {w : List Char} (h : Reads (seq p q) w) :
    ∃ x y, w = x ++ y ∧ Reads p x ∧ Reads q y := by
  cases h with
  | seq hx hy => exact ⟨_, _, rfl, hx, hy⟩

theorem reads_one {test : CharTest} {w : List Char} (h : Reads (one test) w) :
    ∃ a, w = [a] ∧ test.holds a = true := by
  cases h with
  | one ha => exact ⟨_, rfl, ha⟩

theorem reads_run {least : Nat} {most : Option Nat} {test : CharTest} {w : List Char}
    (h : Reads (times .greedy least most (one test)) w) :
    (∀ a ∈ w, test.holds a = true) ∧ least ≤ w.length ∧ ∀ n, most = some n → w.length ≤ n := by
  cases h with
  | run hall hleast hmost => exact ⟨hall, hleast, hmost⟩

theorem reads_ofList_one {tests : List CharTest} {w : List Char}
    (h : Reads (ofList (tests.map one)) w) : List.Forall₂ (fun t a => t.holds a = true) tests w := by
  induction tests generalizing w with
  | nil =>
      cases h
      exact .nil
  | cons t tests ih =>
      cases tests with
      | nil =>
          obtain ⟨a, rfl, ha⟩ := reads_one h
          exact .cons ha .nil
      | cons t' tests =>
          obtain ⟨x, y, rfl, hx, hy⟩ := reads_seq h
          obtain ⟨a, rfl, ha⟩ := reads_one hx
          exact .cons ha (ih hy)

theorem reads_text {s : String} {w : List Char} (h : Reads (text s) w) : w = s.toList := by
  have htext : text s = ofList ((s.toList.map (CharTest.exactly .exact)).map one) := by
    rw [text, List.map_map]
    rfl
  rw [htext] at h
  have hall := reads_ofList_one h
  clear h htext
  generalize s.toList = t at hall
  induction t generalizing w with
  | nil => exact List.forall₂_nil_left_iff.1 hall
  | cons c t ih =>
      obtain ⟨d, w, hd, hrest, rfl⟩ := List.forall₂_cons_left_iff.1 hall
      have hcd : d = c := by simpa [CharTest.holds, CharTest.same, Folding.hasCase] using hd
      rw [hcd, ih hrest]

theorem reads_ofList_append {l l' : List Pattern} {w : List Char}
    (h : Reads (ofList (l ++ l')) w) :
    ∃ x y, w = x ++ y ∧ Reads (ofList l) x ∧ Reads (ofList l') y := by
  induction l generalizing w with
  | nil => exact ⟨[], w, rfl, .empty, h⟩
  | cons p l ih =>
      cases l with
      | nil =>
          cases l' with
          | nil => exact ⟨w, [], (List.append_nil w).symm, h, .empty⟩
          | cons q l' => exact reads_seq h
      | cons q l =>
          obtain ⟨x, w, rfl, hx, hw⟩ := reads_seq h
          obtain ⟨y, z, rfl, hy, hz⟩ := ih hw
          exact ⟨x ++ y, z, (List.append_assoc x y z).symm, .seq hx hy, hz⟩

/-! ## Occurrences -/

/-- Two texts of the language that stand in one text are the same or do not overlap. -/
def Separate (p : Pattern) : Prop :=
  ∀ w v x w' v', Reads p w → Reads p w' → w ++ v = x ++ (w' ++ v') →
    (x = [] ∧ w = w') ∨ w.length ≤ x.length

section Separate

variable {p : Pattern} (hflat : p.isFlat = true) (heats : p.eats = true) (hsep : Separate p)

include hflat in
theorem reads_of_matchAt? {before after : List Char} {pos : Nat} {m : Match}
    (h : p.matchAt? false ⟨before, after, pos⟩ = some m) :
    Reads p m.text ∧ ∃ rest, after = m.text ++ rest := by
  rw [matchAt?_false] at h
  obtain ⟨v, hv, rfl⟩ := Option.map_eq_some_iff.1 h
  obtain ⟨x, hx, hread⟩ := reads_of_way hflat v (List.mem_of_head? hv)
  have htake := hx.take_eq
  simp only at htake
  rw [matchOf, htake]
  exact ⟨hread, v.1.after, hx.after⟩

include hflat in
theorem reads_of_textSpots {s w : List Char} {a pos : Nat} (h : (a, w) ∈ textSpots p pos s) :
    Reads p w := by
  obtain ⟨c, v, hv, hpass⟩ := textSpots_way h
  obtain ⟨x, hx, hread⟩ := reads_of_way hflat v hv
  have heq : x = w := hx.take_eq.symm.trans hpass.take_eq
  exact heq ▸ hread

include hflat heats hsep in
theorem mem_spots_collect {w : List Char} (hw : Reads p w) (v : List Char) :
    ∀ (u before : List Char) (pos skip : Nat), skip ≤ u.length →
      (pos + u.length, w) ∈ spots (p.collect before pos skip (u ++ (w ++ v))) := by
  intro u
  induction u with
  | nil =>
      intro before pos skip hskip
      obtain rfl : skip = 0 := by simpa using hskip
      obtain ⟨m', hway⟩ := hw.way []
        (show Passes ⟨before, w ++ v, pos⟩ w ⟨w.reverse ++ before, v, pos + w.length⟩ from
          ⟨rfl, rfl, rfl⟩)
      obtain ⟨a, w', rfl⟩ : ∃ a w', w = a :: w' := by
        have hpos := eats_pos heats hway
        cases w with
        | nil => simp at hpos
        | cons a w' => exact ⟨a, w', rfl⟩
      rw [List.nil_append, List.cons_append, collect_cons heats]
      cases hm : p.matchAt? false ⟨before, a :: (w' ++ v), pos⟩ with
      | none =>
          rw [matchAt?_false, Option.map_eq_none_iff, List.head?_eq_none_iff] at hm
          rw [List.cons_append, hm] at hway
          cases hway
      | some m =>
          obtain ⟨hread, rest, hrest⟩ := reads_of_matchAt? hflat hm
          obtain ⟨-, htext⟩ | hlen := hsep m.text rest [] (a :: w') v hread hw hrest.symm
          · simp [spots, htext, matchAt?_start hm]
          · have hpos := List.length_pos_iff.2 (matchAt?_ne_nil heats hm)
            rw [List.length_nil] at hlen
            omega
  | cons a u ih =>
      intro before pos skip hskip
      have hrest : ∀ skip, skip ≤ u.length → (pos + (a :: u).length, w) ∈
          spots (p.collect (a :: before) (pos + 1) skip (u ++ (w ++ v))) := by
        intro skip hskip
        have h := ih (a :: before) (pos + 1) skip hskip
        rwa [show pos + 1 + u.length = pos + (a :: u).length by rw [List.length_cons]; omega] at h
      cases skip with
      | succ skip =>
          rw [List.cons_append, collect]
          exact hrest skip (by simpa using hskip)
      | zero =>
          rw [List.cons_append, collect_cons heats]
          cases hm : p.matchAt? false ⟨before, a :: (u ++ (w ++ v)), pos⟩ with
          | none => exact hrest 0 (Nat.zero_le _)
          | some m =>
              obtain ⟨hread, rest, hrest'⟩ := reads_of_matchAt? hflat hm
              obtain ⟨hnil, -⟩ | hlen := hsep m.text rest (a :: u) w v hread hw hrest'.symm
              · cases hnil
              · rw [List.length_cons] at hlen
                exact List.mem_cons_of_mem _ (hrest (m.text.length - 1) (by omega))

include hflat heats hsep in
/-- Every occurrence of a text of the language is matched, if it is within a line. -/
theorem mem_textSpots_of_reads {w : List Char} (hw : Reads p w) (hbreak : '\n' ∉ w)
    (v : List Char) : ∀ {u : List Char} (pos : Nat),
      (pos + u.length, w) ∈ textSpots p pos (u ++ (w ++ v)) := by
  intro u
  induction hlen : u.length using Nat.strongRecOn generalizing u with
  | ind n ih =>
      intro pos
      by_cases hu : '\n' ∈ u
      · obtain ⟨line, rest, rfl, hline⟩ := List.eq_append_cons_of_mem hu
        rw [List.length_append, List.length_cons] at hlen
        have h := ih rest.length (by omega) rfl (pos + line.length + 1)
        rw [List.append_assoc, List.cons_append, textSpots_break hline]
        refine List.mem_append_right _ ?_
        rwa [show pos + n = pos + line.length + 1 + rest.length by omega]
      · have hspot : ∀ v', (pos + n, w) ∈ moved pos (spots (p.allIn (u ++ (w ++ v')))) := by
          intro v'
          have h := mem_spots_collect hflat heats hsep hw v' u [] 0 0 (Nat.zero_le _)
          refine List.mem_map.2 ⟨_, h, ?_⟩
          rw [hlen, Nat.zero_add, Nat.add_comm]
        by_cases hv : '\n' ∈ v
        · obtain ⟨line, rest, rfl, hline⟩ := List.eq_append_cons_of_mem hv
          have hnone : '\n' ∉ u ++ (w ++ line) := by simp [hu, hbreak, hline]
          rw [show u ++ (w ++ (line ++ '\n' :: rest)) = u ++ (w ++ line) ++ '\n' :: rest by simp,
            textSpots_break hnone, textSpots_single hnone]
          exact List.mem_append_left _ (hspot line)
        · rw [textSpots_single (by simp [hu, hbreak, hv])]
          exact hspot v

end Separate

end Pattern

end SecretScan

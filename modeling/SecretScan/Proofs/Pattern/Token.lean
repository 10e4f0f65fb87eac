import SecretScan.Proofs.Pattern.Reads

/-!
# Tokens

Many a key is written with a front of fixed length and, behind it, as many characters of one kind
as there are. A pattern for such tokens tries longer texts before shorter ones, so what it matches
at a place is the longest token there (`length_le_of_reads`). A token that begins inside another
one can be read on to the end of that one (`Reads.lengthen`). Both together say that no match goes
on behind a token that begins inside of it (`stop_le_of_within`).
-/

namespace SecretScan

namespace Pattern

open Cursor (Passes)

/-- Whether a pattern is a row of single characters. -/
@[simp]
def isRow : Pattern → Bool
  | empty => true
  | one _ => true
  | seq p q => p.isRow && q.isRow
  | _ => false

/-- Whether a pattern is a row of single characters and then a run of characters of one kind. -/
@[simp]
def isToken : Pattern → Bool
  | seq p q => p.isRow && q.isToken
  | times .greedy least most (one _) => most.all (decide <| least ≤ ·)
  | _ => false

theorem isFlat_of_isRow {p : Pattern} (h : p.isRow = true) : p.isFlat = true := by
  induction p with
  | empty => rfl
  | one test => rfl
  | seq p q ihp ihq =>
      rw [isRow, Bool.and_eq_true] at h
      rw [isFlat, ihp h.1, ihq h.2, Bool.and_self]
  | _ => simp at h

theorem isFlat_of_isToken {p : Pattern} (h : p.isToken = true) : p.isFlat = true := by
  induction p with
  | seq p q _ ihq =>
      rw [isToken, Bool.and_eq_true] at h
      rw [isFlat, isFlat_of_isRow h.1, ihq h.2, Bool.and_self]
  | times greed least most body _ =>
      cases greed <;> cases body <;> simp_all
  | _ => simp at h

/-! ## The longest token -/

theorem pairwise_flatMap_of_length_le_one {α β : Type} {R : β → β → Prop} {l : List α}
    {f : α → List β} (hl : l.length ≤ 1) (h : ∀ a ∈ l, (f a).Pairwise R) :
    (l.flatMap f).Pairwise R := by
  cases l with
  | nil => exact List.Pairwise.nil
  | cons a l =>
      obtain rfl : l = [] := by
        rw [List.length_cons] at hl
        exact List.eq_nil_of_length_eq_zero (by omega)
      rw [List.flatMap_singleton]
      exact h a (List.mem_singleton_self a)

/-- There is one way at most to match a single character. -/
theorem length_ways_one (test : CharTest) (c : Cursor) (m : Marks) :
    (ways (one test) c m).length ≤ 1 := by
  obtain ⟨before, after, pos⟩ := c
  cases after with
  | nil => simp [ways]
  | cons a after =>
      simp only [ways]
      split <;> simp

theorem length_ways_row {p : Pattern} (h : p.isRow = true) (c : Cursor) (m : Marks) :
    (ways p c m).length ≤ 1 := by
  induction p generalizing c m with
  | empty => exact Nat.le_refl 1
  | one test => exact length_ways_one test c m
  | seq p q ihp ihq =>
      rw [isRow, Bool.and_eq_true] at h
      have hp := ihp h.1 c m
      rw [ways]
      cases hways : ways p c m with
      | nil => simp
      | cons w ws =>
          obtain rfl : ws = [] := by
            rw [hways, List.length_cons] at hp
            exact List.eq_nil_of_length_eq_zero (by omega)
          rw [List.flatMap_singleton]
          exact ihq h.2 w.1 w.2
  | _ => simp at h

/-- A run goes on before it stops, so its ways come from far to near. -/
theorem rounds_one_pairwise (test : CharTest) : ∀ (fuel least : Nat) (most last : Option Nat)
    (c : Cursor) (m : Marks), (rounds (ways (one test)) true fuel least most last c m).Pairwise
      fun v w => w.1.pos ≤ v.1.pos := by
  intro fuel
  induction fuel with
  | zero => intro least most last c m; rw [rounds]; exact List.pairwise_singleton _ _
  | succ fuel ih =>
      intro least most last c m
      have hmore : ∀ least most last, ((ways (one test) c m).flatMap fun w =>
          rounds (ways (one test)) true fuel least most last w.1 w.2).Pairwise
            fun v w => w.1.pos ≤ v.1.pos := fun least most last =>
        pairwise_flatMap_of_length_le_one (length_ways_one test c m)
          fun w _ => ih least most last w.1 w.2
      cases least with
      | succ least => rw [rounds]; exact hmore least _ last
      | zero =>
          rw [rounds]
          split
          · exact List.pairwise_singleton _ _
          · simp only [if_true]
            refine List.pairwise_append.2 ⟨hmore _ _ _, List.pairwise_singleton _ _, ?_⟩
            intro v hv w hw
            obtain ⟨x, hx, hv⟩ := List.mem_flatMap.1 hv
            obtain ⟨a, -, hpass, -⟩ := ways_one hx
            obtain ⟨u, hu⟩ := rounds_passes (fun c m w hw => ways_passes hw) true _ _ _ _ hv
            obtain rfl := List.mem_singleton.1 hw
            rw [hu.pos, hpass.pos]
            show c.pos ≤ c.pos + 1 + u.length
            omega

theorem ways_token_pairwise {p : Pattern} (h : p.isToken = true) (c : Cursor) (m : Marks) :
    (ways p c m).Pairwise fun v w => w.1.pos ≤ v.1.pos := by
  induction p generalizing c m with
  | seq p q _ ihq =>
      rw [isToken, Bool.and_eq_true] at h
      rw [ways]
      exact pairwise_flatMap_of_length_le_one (length_ways_row h.1 c m)
        fun w _ => ihq h.2 w.1 w.2
  | times greed least most body _ =>
      cases greed with
      | greedy =>
          cases body with
          | one test =>
              simp only [ways]
              exact rounds_one_pairwise test _ _ _ _ c m
          | _ => simp at h
      | lazy => simp at h
      | possessive => simp at h
  | _ => simp at h

/-- What is matched at a place is the longest token there. -/
theorem length_le_of_reads {p : Pattern} (h : p.isToken = true) {c : Cursor} {m : Match}
    (hm : p.matchAt? false c = some m) {x y : List Char} (hx : Reads p x)
    (hafter : c.after = x ++ y) : x.length ≤ m.text.length := by
  rw [matchAt?_false] at hm
  obtain ⟨w, hw, rfl⟩ := Option.map_eq_some_iff.1 hm
  obtain ⟨u, hu⟩ := ways_passes (List.mem_of_head? hw)
  obtain ⟨n, hway⟩ := hx.way []
    (show Passes c x ⟨x.reverse ++ c.before, y, c.pos + x.length⟩ from ⟨hafter, rfl, rfl⟩)
  have hfirst : c.pos + x.length ≤ w.1.pos := by
    have hpairwise := ways_token_pairwise h c []
    obtain ⟨ws, hways⟩ := List.head?_eq_some_iff.1 hw
    rw [hways] at hway hpairwise
    rcases List.mem_cons.1 hway with heq | hmem
    · exact heq ▸ Nat.le_refl _
    · exact (List.pairwise_cons.1 hpairwise).1 _ hmem
  have htext : (matchOf c w).text = u := hu.take_eq
  rw [hu.pos] at hfirst
  rw [htext]
  omega

/-! ## Tokens inside of tokens -/

theorem Reads.length_row {p : Pattern} (h : p.isRow = true) {x y : List Char} (hx : Reads p x)
    (hy : Reads p y) : x.length = y.length := by
  induction p generalizing x y with
  | empty => cases hx; cases hy; rfl
  | one test =>
      obtain ⟨a, rfl, -⟩ := reads_one hx
      obtain ⟨b, rfl, -⟩ := reads_one hy
      rfl
  | seq p q ihp ihq =>
      rw [isRow, Bool.and_eq_true] at h
      obtain ⟨x, x', rfl, hx, hx'⟩ := reads_seq hx
      obtain ⟨y, y', rfl, hy, hy'⟩ := reads_seq hy
      rw [List.length_append, List.length_append, ihp h.1 hx hy, ihq h.2 hx' hy']
  | _ => simp at h

/-- A token inside another one can be read on to the end of that one. -/
theorem Reads.lengthen {p : Pattern} (h : p.isToken = true) {w x y z : List Char}
    (hw : Reads p w) (hy : Reads p y) (heq : w = x ++ (y ++ z)) : Reads p (y ++ z) := by
  induction p generalizing w x y with
  | seq p q _ ihq =>
      rw [isToken, Bool.and_eq_true] at h
      obtain ⟨w, w', rfl, hw, hw'⟩ := reads_seq hw
      obtain ⟨y, y', rfl, hy, hy'⟩ := reads_seq hy
      have hlen := hw.length_row h.1 hy
      -- the row of the outer token ends in front of where the run of the inner one begins
      obtain ⟨x', hx'⟩ : ∃ x', w' = x' ++ (y' ++ z) := by
        refine ⟨(x ++ y).drop w.length, ?_⟩
        have hdrop := congrArg (List.drop w.length) heq
        rw [List.drop_left, List.append_assoc, ← List.append_assoc x,
          List.drop_append_of_le_length (by rw [List.length_append]; omega)] at hdrop
        exact hdrop
      rw [List.append_assoc]
      exact .seq hy (ihq h.2 hw' hy' hx')
  | times greed least most body _ =>
      cases greed with
      | greedy =>
          cases body with
          | one test =>
              obtain ⟨hall, -, hmost⟩ := reads_run hw
              obtain ⟨-, hleast, -⟩ := reads_run hy
              subst heq
              refine .run (fun a ha => hall a (List.mem_append_right x ha)) ?_ fun n hn => ?_
              · rw [List.length_append]
                omega
              · have hle := hmost n hn
                rw [List.length_append] at hle
                omega
          | _ => simp at h
      | lazy => simp at h
      | possessive => simp at h
  | _ => simp at h

/-- What a match that has begun holds of the line from a place on. -/
theorem MatchIn.drop_eq {p : Pattern} {u v : List Char} {n : Match} (hn : MatchIn p (u ++ v) n)
    (hstart : n.start ≤ u.length) : n.text ++ n.rest = u.drop n.start ++ v := by
  have hdrop := congrArg (List.drop n.start) hn.text_eq
  rw [List.drop_append_of_le_length hstart, List.drop_left' (by
    rw [List.length_reverse, hn.start_eq])] at hdrop
  exact hdrop.symm

/-- A match does not go on behind a token that begins inside of it. -/
theorem stop_le_of_within {p : Pattern} (h : p.isToken = true) {u v : List Char} {m n : Match}
    (hm : p.matchAt? false ⟨u.reverse, v, u.length⟩ = some m) (hn : MatchIn p (u ++ v) n)
    (hstart : n.start ≤ u.length) : n.stop ≤ u.length + m.text.length := by
  have hflat := isFlat_of_isToken h
  obtain ⟨hread, rest, rfl⟩ := reads_of_matchAt? hflat hm
  by_contra hlt
  rw [Nat.not_le, Match.stop] at hlt
  have hline := hn.drop_eq hstart
  obtain ⟨z, hz, hrest⟩ : ∃ z, n.text = u.drop n.start ++ (m.text ++ z) ∧ rest = z ++ n.rest := by
    rw [← List.append_assoc] at hline
    obtain ⟨z, hz, hrest⟩ | ⟨z, hz, hrest⟩ := List.append_eq_append_iff.1 hline
    · have hlen := congrArg List.length hz
      simp only [List.length_append, List.length_drop] at hlen
      obtain rfl : z = [] := List.eq_nil_of_length_eq_zero (by omega)
      exact ⟨[], by simpa using hz.symm, by simpa using hrest.symm⟩
    · exact ⟨z, by rw [hz, List.append_assoc], hrest⟩
  have hlonger := length_le_of_reads h hm ((hn.reads hflat).lengthen h hread hz)
    (show m.text ++ rest = (m.text ++ z) ++ n.rest by rw [hrest, List.append_assoc])
  have hlen := congrArg List.length hz
  simp only [List.length_append, List.length_drop] at hlen hlonger
  omega

/-- What a match holds from a token on that begins inside of it is a part of the token. -/
theorem drop_prefix_of_within {p : Pattern} (h : p.isToken = true) {u v : List Char} {m n : Match}
    (hm : p.matchAt? false ⟨u.reverse, v, u.length⟩ = some m) (hn : MatchIn p (u ++ v) n)
    (hstart : n.start ≤ u.length) : n.text.drop (u.length - n.start) <+: m.text := by
  have hstop := stop_le_of_within h hm hn hstart
  obtain ⟨-, rest, rfl⟩ := reads_of_matchAt? (isFlat_of_isToken h) hm
  rw [Match.stop] at hstop
  by_cases hreach : n.text.length ≤ u.length - n.start
  · rw [List.drop_eq_nil_of_le hreach]
    exact List.nil_prefix
  have hline := congrArg (List.drop (u.length - n.start)) (hn.drop_eq hstart)
  rw [List.drop_append_of_le_length (by omega), List.drop_left' List.length_drop] at hline
  refine List.prefix_of_prefix_length_le ⟨n.rest, hline⟩ (List.prefix_append m.text rest) ?_
  rw [List.length_drop]
  omega

end Pattern

end SecretScan

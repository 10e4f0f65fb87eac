import SecretScan.Proofs.Script.Expressions
import SecretScan.Script.CasePattern

/-!
# Case patterns next to texts that gave way

A pattern may hold texts but no references, so nothing in it may give way. What is read as a
pattern is read as the same pattern whatever follows behind the line.
-/

namespace SecretScan.Script

variable {Lines : Nat → Nat → Prop} {After : List Lexeme → List Lexeme → Prop}
  {ts us : List Lexeme}

/-- A name comes next on both sides or on none, if nothing gives way in the line. -/
theorem Exchanged.eatName_zero (h : Exchanged Lines After 0 ts us) :
    (Script.eatName ts = none ∧ Script.eatName us = none) ∨
      ∃ s ts' us', Script.eatName ts = some (s, ts') ∧ Script.eatName us = some (s, us') ∧
        Exchanged Lines After 0 ts' us' := by
  cases h with
  | nil _ => exact .inl ⟨rfl, rfl⟩
  | newline _ _ => exact .inl ⟨rfl, rfl⟩
  | @keep _ line line' t ts us _ _ _ h =>
      cases t with
      | name s => exact .inr ⟨s, ts, us, rfl, rfl, h⟩
      | _ => exact .inl ⟨rfl, rfl⟩

theorem Exchanged.atText_zero (h : Exchanged Lines After 0 ts us) : atText us = atText ts := by
  cases h with
  | nil _ => rfl
  | newline _ _ => rfl
  | @keep _ _ _ t => cases t <;> rfl

namespace CasePattern

theorem capture_carries (h : Exchanged Lines After 0 ts us) :
    Carries (Exchanged Lines After 0) (capture ts) (capture us) := by
  unfold capture
  refine h.carries_eatName.bind_keeps fun s ts us h => ?_
  dsimp only
  rw [h.isAtAny]
  split
  · exact .none_left
  · exact .some h

theorem eatNumber_carries (h : Exchanged Lines After 0 ts us) :
    Carries (Keeps Lines After 0) (eatNumber ts) (eatNumber us) := by
  cases h with
  | nil _ => exact .none_left
  | newline _ _ => exact .none_left
  | @keep _ line line' t ts us _ _ _ h =>
      cases t with
      | number s => exact .some ⟨rfl, h⟩
      | _ => exact .none_left

theorem number_carries (h : Exchanged Lines After 0 ts us) :
    Carries (Exchanged Lines After 0) (number ts) (number us) := by
  unfold number
  refine (eatNumber_carries (Expression.eat_getD h "-")).bind_keeps fun imaginary ts us h => ?_
  dsimp only
  rw [h.isAtAny]
  split
  · next hsign =>
      refine (eatNumber_carries (h.drop_one hsign)).bind_keeps fun unit ts us h => ?_
      dsimp only
      split
      · exact .none_left
      · exact .some h
  · exact .some h

theorem literal_carries (h : Exchanged Lines After 0 ts us) :
    Carries (Exchanged Lines After 0) (literal ts) (literal us) := by
  have hliteral : ∀ ts, literal ts =
      if atText ts then (Expression.texts ts).map (·.2)
      else if isAtAny ["None", "True", "False"] ts then some (ts.drop 1) else number ts := by
    intro ts
    unfold literal
    split
    · rfl
    · next htext =>
        have hnone : atText ts = false := by
          unfold atText
          split
          · exact (htext _ _ _ rfl).elim
          · rfl
        rw [hnone]
        rfl
  rw [hliteral, hliteral, h.atText_zero, h.isAtAny]
  split
  · exact (Expression.texts_carries h h.atText_zero).map fun _ _ h => h.2
  · split
    · next hsign => exact .some (h.drop_one hsign)
    · exact number_carries h

theorem parts_eq (ts : List Lexeme) :
    parts ts =
      match (eat "." ts).bind eatName with
      | some (_, ts) => ((parts ts).1 + 1, (parts ts).2)
      | none => (0, ts) := by
  rw [parts.eq_def]
  split
  · rfl
  · next hpart => rw [eatPart_eq_none hpart]

theorem parts_exchanged (h : Exchanged Lines After 0 ts us) :
    (parts us).1 = (parts ts).1 ∧ Exchanged Lines After 0 (parts ts).2 (parts us).2 := by
  induction hlen : ts.length using Nat.strongRecOn generalizing ts us with
  | ind len ih =>
      rw [parts_eq ts, parts_eq us]
      rcases h.eatPart with ⟨hts, hus⟩ | ⟨u, ts', us', hts, hus, h'⟩ <;> simp only [hts, hus]
      · exact ⟨trivial, h⟩
      · obtain ⟨line, line', rfl⟩ := eatPart_eq_some hts
        obtain ⟨heq, hrest⟩ := ih ts'.length (by simp only [← hlen, List.length_cons]; omega) h' rfl
        exact ⟨by rw [heq], hrest⟩

/-! ## Rules -/

/-- All goals carry over from one reader to another. -/
def Carried (Lines : Nat → Nat → Prop) (After : List Lexeme → List Lexeme → Prop)
    (self self' : Goal → Rule) : Prop :=
  ∀ (g : Goal) {ts us : List Lexeme}, Exchanged Lines After 0 ts us →
    Carries (Exchanged Lines After 0) (self g ts) (self' g us)

section Rules

variable {self self' : Goal → Rule}

theorem pattern_carries (ih : Carried Lines After self self') (h : Exchanged Lines After 0 ts us) :
    Carries (Exchanged Lines After 0) (pattern self ts) (pattern self' us) := by
  unfold pattern
  refine (ih .alternatives h).bind fun ts us h => ?_
  rcases h.eat "as" with ⟨hts, hus⟩ | ⟨ts', us', hts, hus, h'⟩ <;> simp only [hts, hus]
  · exact .some h
  · exact capture_carries h'

theorem starred_carries (ih : Carried Lines After self self') (h : Exchanged Lines After 0 ts us) :
    Carries (Exchanged Lines After 0) (starred self ts) (starred self' us) := by
  unfold starred
  rcases h.eat "*" with ⟨hts, hus⟩ | ⟨ts', us', hts, hus, h'⟩ <;> simp only [hts, hus]
  · exact ih .pattern h
  · rcases h'.eatName_zero with ⟨hts, hus⟩ | ⟨s, rest, rest', hts, hus, hrest⟩ <;>
      simp only [hts, hus]
    · exact .none_left
    · split
      · exact .some hrest
      · exact capture_carries h'

theorem alternatives_carries (ih : Carried Lines After self self')
    (h : Exchanged Lines After 0 ts us) :
    Carries (Exchanged Lines After 0) (alternatives self ts) (alternatives self' us) := by
  unfold alternatives
  refine (ih .closed h).bind fun ts us h => ?_
  rcases h.eat "|" with ⟨hts, hus⟩ | ⟨ts', us', hts, hus, h'⟩ <;> simp only [hts, hus]
  · exact .some h
  · exact ih .alternatives h'

theorem items_carries (ih : Carried Lines After self self') (close : List String)
    (h : Exchanged Lines After 0 ts us) :
    Carries (Exchanged Lines After 0) (items self close ts) (items self' close us) := by
  unfold items
  rw [h.isAtAny]
  split
  · exact .some h
  · refine (ih .starred h).bind fun ts us h => ?_
    rcases h.eat "," with ⟨hts, hus⟩ | ⟨ts', us', hts, hus, h'⟩ <;> simp only [hts, hus]
    · exact .some h
    · exact ih (.items close) h'

theorem parenthesized_carries (ih : Carried Lines After self self')
    (h : Exchanged Lines After 0 ts us) :
    Carries (Exchanged Lines After 0) (parenthesized self ts) (parenthesized self' us) := by
  unfold parenthesized
  rw [h.isAt, h.isAt]
  split
  · next hsign => exact .some (h.drop_sign hsign)
  · refine (ih .starred h).bind fun ts us h => ?_
    rcases h.eat "," with ⟨hts, hus⟩ | ⟨ts', us', hts, hus, h'⟩ <;> simp only [hts, hus]
    · split
      · exact .none_left
      · exact h.carries_eat ")"
    · exact (ih (.items [")"]) h').bind fun ts us h => h.carries_eat ")"

theorem key_carries (h : Exchanged Lines After 0 ts us) :
    Carries (Exchanged Lines After 0) (key ts) (key us) := by
  unfold key
  rcases h.eatName_zero with ⟨hts, hus⟩ | ⟨s, ts', us', hts, hus, h'⟩ <;> simp only [hts, hus]
  · exact literal_carries h
  · obtain ⟨heq, hrest⟩ := parts_exchanged h'
    rw [heq]
    split
    · exact .none_left
    · exact .some hrest

theorem entries_carries (ih : Carried Lines After self self') (h : Exchanged Lines After 0 ts us) :
    Carries (Exchanged Lines After 0) (entries self ts) (entries self' us) := by
  unfold entries
  rw [h.isAt]
  split
  · next hsign => exact .some (h.drop_sign hsign)
  · rcases h.eat "**" with ⟨hts, hus⟩ | ⟨ts', us', hts, hus, h'⟩ <;> simp only [hts, hus]
    · refine (key_carries h).bind fun ts us h => ?_
      refine (h.carries_eat ":").bind fun ts us h => ?_
      refine (ih .pattern h).bind fun ts us h => ?_
      rcases h.eat "," with ⟨hts, hus⟩ | ⟨ts', us', hts, hus, h'⟩ <;> simp only [hts, hus]
      · exact h.carries_eat "\x7d"
      · exact ih .entries h'
    · refine (capture_carries h').bind fun ts us h => ?_
      exact (Expression.eat_getD h ",").carries_eat "\x7d"

theorem argumentName_exchanged (h : Exchanged Lines After 0 ts us) :
    (argumentName us).1 = (argumentName ts).1 ∧
      Exchanged Lines After 0 (argumentName ts).2 (argumentName us).2 := by
  have hname : ∀ ts, argumentName ts =
      (((eatName ts).bind fun p => eat "=" p.2).isSome,
        ((eatName ts).bind fun p => eat "=" p.2).getD ts) := by
    intro ts
    unfold argumentName
    split
    · rfl
    · next hnamed =>
        rw [eatNamed_eq_none hnamed]
        rfl
  rw [hname, hname]
  rcases h.eatNamed "=" (by decide) with ⟨hts, hus⟩ | ⟨ts', us', hts, hus, h'⟩ <;> rw [hts, hus]
  · exact ⟨rfl, h⟩
  · exact ⟨rfl, h'⟩

theorem arguments_carries (ih : Carried Lines After self self') (keyword : Bool)
    (h : Exchanged Lines After 0 ts us) :
    Carries (Exchanged Lines After 0) (arguments self keyword ts) (arguments self' keyword us) := by
  obtain ⟨heq, h'⟩ := argumentName_exchanged h
  unfold arguments
  rw [h.isAt]
  split
  · next hsign => exact .some (h.drop_sign hsign)
  · dsimp only
    rw [heq]
    split
    · exact .none_left
    · refine (ih .pattern h').bind fun ts us h => ?_
      rcases h.eat "," with ⟨hts, hus⟩ | ⟨ts', us', hts, hus, h'⟩ <;> simp only [hts, hus]
      · exact h.carries_eat ")"
      · exact ih (.arguments _) h'

theorem ofName_carries (ih : Carried Lines After self self') (h : Exchanged Lines After 0 ts us) :
    Carries (Exchanged Lines After 0) (ofName self ts) (ofName self' us) := by
  unfold ofName
  refine h.carries_eatName.bind_keeps fun s ts' us' h' => ?_
  dsimp only
  split
  · exact .some h'
  · obtain ⟨heq, hrest⟩ := parts_exchanged h'
    rcases hrest.eat "(" with ⟨hts, hus⟩ | ⟨ts'', us'', hts, hus, h''⟩ <;> simp only [hts, hus]
    · rw [hrest.isAtAny, heq]
      split
      · exact .none_left
      · split
        · exact capture_carries h
        · exact .some hrest
    · exact ih (.arguments false) h''

theorem closed_carries (ih : Carried Lines After self self') (h : Exchanged Lines After 0 ts us) :
    Carries (Exchanged Lines After 0) (closed self ts) (closed self' us) := by
  unfold closed
  rcases h.eat "(" with ⟨hts, hus⟩ | ⟨ts', us', hts, hus, h'⟩ <;> simp only [hts, hus]
  · rcases h.eat "[" with ⟨hts, hus⟩ | ⟨ts', us', hts, hus, h'⟩ <;> simp only [hts, hus]
    · rcases h.eat "\x7b" with ⟨hts, hus⟩ | ⟨ts', us', hts, hus, h'⟩ <;> simp only [hts, hus]
      · rcases h.eatName_zero with ⟨hts, hus⟩ | ⟨s, ts', us', hts, hus, -⟩ <;> simp only [hts, hus]
        · exact literal_carries h
        · exact ofName_carries ih h
      · exact ih .entries h'
    · exact (ih (.items ["]"]) h').bind fun ts us h => h.carries_eat "]"
  · exact parenthesized_carries ih h'

theorem rule_carries (ih : Carried Lines After self self') (g : Goal)
    (h : Exchanged Lines After 0 ts us) :
    Carries (Exchanged Lines After 0) (rule self g ts) (rule self' g us) := by
  cases g with
  | pattern => exact pattern_carries ih h
  | starred => exact starred_carries ih h
  | alternatives => exact alternatives_carries ih h
  | closed => exact closed_carries ih h
  | items close => exact items_carries ih close h
  | entries => exact entries_carries ih h
  | arguments keyword => exact arguments_carries ih keyword h

end Rules

theorem run_carries {k m : Nat} (hm : k ≤ m) : Carried Lines After (run k) (run m) := by
  induction k generalizing m with
  | zero => exact fun g ts us _ => .none_left
  | succ k ih =>
      cases m with
      | zero => omega
      | succ m => exact fun g ts us h => rule_carries (ih (Nat.le_of_succ_le_succ hm)) g h

/-- What is read as a pattern is read as one whatever follows behind the line. -/
theorem read_carries (h : Exchanged Lines After 0 ts us) :
    Carries (Exchanged Lines After 0) (read ts) (read us) := by
  obtain ⟨k, hk, -, hlen⟩ := h.lineLength
  obtain rfl : k = 0 := by omega
  have hself : Carried Lines After (run (8 * (lineLength ts + 1)))
      (run (8 * (lineLength us + 1))) :=
    run_carries (by omega)
  unfold read
  refine (hself .starred h).bind fun rest rest' hrest => ?_
  rcases hrest.eat "," with ⟨hts, hus⟩ | ⟨ts', us', hts, hus, h'⟩ <;> simp only [hts, hus]
  · rw [h.isAt]
    split
    · exact .none_left
    · exact .some hrest
  · exact hself (.items [":", "if"]) h'

end CasePattern

end SecretScan.Script

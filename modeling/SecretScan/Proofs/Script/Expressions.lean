import SecretScan.Proofs.Script.Exchange

/-!
# Expressions in which texts gave way to references

What is read as an expression is still read as one, up to the same place, after texts in it
gave way to references. Each rule carries this over from the rules that it asks for; a rule
finds the same signs and names on both sides, and the shape of what it reads can only
allow more.
-/

namespace SecretScan.Script.Expression

variable {Lines : Nat → Nat → Prop} {After : List Lexeme → List Lexeme → Prop}
  {n : Nat} {ts us : List Lexeme}

/-- Two readers come to the same place, the second one with a shape that allows at least as
much. -/
def Tracks (Lines : Nat → Nat → Prop)
    (After : List Lexeme → List Lexeme → Prop) (n : Nat) (a b : Shape × List Lexeme) :
    Prop :=
  a.1.Loosens b.1 ∧ Exchanged Lines After n a.2 b.2

/-- A goal other than an atom and the same goal, perhaps behind a shape that allows more. -/
inductive Goal.Loosens : Goal → Goal → Prop
  | same {g : Goal} : g ≠ .atom → Goal.Loosens g g
  | trailers {s t : Shape} : s.Loosens t → Goal.Loosens (.trailers s) (.trailers t)

/-- All goals but atoms carry over from one reader to another. -/
def Carried (Lines : Nat → Nat → Prop)
    (After : List Lexeme → List Lexeme → Prop) (n : Nat) (self self' : Goal → Rule) :
    Prop :=
  ∀ {g g' : Goal} {ts us : List Lexeme}, g.Loosens g' → Exchanged Lines After n ts us →
    Carries (Tracks Lines After n) (self g ts) (self' g' us)

theorem carries_plain (h : Exchanged Lines After n ts us) :
    Carries (Tracks Lines After n) (plain ts) (plain us) :=
  .some ⟨.refl _, h⟩

section Rules

variable {self self' : Goal → Rule}

theorem Carried.goal (ih : Carried Lines After n self self') {g : Goal} (hg : g ≠ .atom)
    (h : Exchanged Lines After n ts us) : Carries (Tracks Lines After n) (self g ts) (self' g us) :=
  ih (.same hg) h

theorem Carried.bind (ih : Carried Lines After n self self') {g : Goal} (hg : g ≠ .atom)
    (h : Exchanged Lines After n ts us) {α β : Type} {P : α → β → Prop}
    {f : Shape × List Lexeme → Option α} {f' : Shape × List Lexeme → Option β}
    (hf : ∀ s t ts us, s.Loosens t → Exchanged Lines After n ts us →
      Carries P (f (s, ts)) (f' (t, us))) :
    Carries P (self g ts >>= f) (self' g us >>= f') :=
  (ih.goal hg h).bind fun a b hab => hf a.1 b.1 a.2 b.2 hab.1 hab.2

/-- A rule that reads something and forgets its shape. -/
theorem Carried.skip (ih : Carried Lines After n self self') {g : Goal} (hg : g ≠ .atom)
    (h : Exchanged Lines After n ts us) :
    Carries (Tracks Lines After n) (self g ts >>= fun x => plain x.2)
      (self' g us >>= fun x => plain x.2) :=
  ih.bind hg h fun _ _ _ _ _ h => carries_plain h

theorem stars_carries (ih : Carried Lines After n self self') (h : Exchanged Lines After n ts us) :
    Carries (Tracks Lines After n) (stars self ts) (stars self' us) := by
  unfold stars
  refine ih.bind (by simp) h fun s t ts us hs h => ?_
  rcases h.eat "," with ⟨hts, hus⟩ | ⟨ts', us', hts, hus, h⟩ <;> simp only [hts, hus]
  · exact .some ⟨hs, h⟩
  · exact ih.bind (by simp) h fun _ _ _ _ hr h => .some ⟨(hs.cons hr.parts).tuple, h⟩

theorem orStarred_carries (ih : Carried Lines After n self self') {g : Goal} (hg : g ≠ .atom)
    (h : Exchanged Lines After n ts us) :
    Carries (Tracks Lines After n) (orStarred self g ts) (orStarred self' g us) := by
  unfold orStarred
  rcases h.eat "*" with ⟨hts, hus⟩ | ⟨ts', us', hts, hus, h'⟩ <;> simp only [hts, hus]
  · exact ih.goal hg h
  · exact ih.bind (by simp) h' fun _ _ _ _ hs h => .some ⟨hs.behindStar, h⟩

theorem named_eq (self : Goal → Rule) (ts : List Lexeme) :
    named self ts =
      match (eatName ts).bind fun p => eat ":=" p.2 with
      | some ts => self .expression ts >>= fun x => plain x.2
      | none => self .expression ts := by
  unfold named
  split
  · rfl
  · next hnamed => rw [eatNamed_eq_none hnamed]

theorem named_carries (ih : Carried Lines After n self self') (h : Exchanged Lines After n ts us) :
    Carries (Tracks Lines After n) (named self ts) (named self' us) := by
  rw [named_eq, named_eq]
  rcases h.eatNamed ":=" (by decide) with ⟨hts, hus⟩ | ⟨ts', us', hts, hus, h'⟩ <;>
    simp only [hts, hus]
  · exact ih.goal (by simp) h
  · exact ih.skip (by simp) h'

theorem more_carries (ih : Carried Lines After n self self') (isNamed : Bool)
    (h : Exchanged Lines After n ts us) :
    Carries (Tracks Lines After n) (more self isNamed ts) (more self' isNamed us) := by
  unfold more
  rw [h.canStart, h.isAt]
  split
  · refine ih.bind (by cases isNamed <;> simp) h fun s t ts us hs h => ?_
    rcases h.eat "," with ⟨hts, hus⟩ | ⟨ts', us', hts, hus, h⟩ <;> simp only [hts, hus]
    · exact .some ⟨(hs.cons (.refl [])).tuple, h⟩
    · exact ih.bind (by simp) h fun _ _ _ _ hr h => .some ⟨(hs.cons hr.parts).tuple, h⟩
  · exact .some ⟨.refl _, h⟩

theorem expression_carries (ih : Carried Lines After n self self')
    (h : Exchanged Lines After n ts us) :
    Carries (Tracks Lines After n) (expression self ts) (expression self' us) := by
  unfold expression
  rcases h.eat "lambda" with ⟨hts, hus⟩ | ⟨ts', us', hts, hus, h'⟩ <;> simp only [hts, hus]
  · refine ih.bind (by simp) h fun s t ts us hs h => ?_
    rcases h.eat "if" with ⟨hts, hus⟩ | ⟨ts', us', hts, hus, h⟩ <;> simp only [hts, hus]
    · exact .some ⟨hs, h⟩
    · refine ih.bind (by simp) h fun _ _ ts us _ h => ?_
      exact (h.carries_eat "else").bind fun ts us h => ih.skip (by simp) h
  · refine ih.bind (by simp) h' fun _ _ ts us _ h => ?_
    exact (h.carries_eat ":").bind fun ts us h => ih.skip (by simp) h

theorem disjunction_carries (ih : Carried Lines After n self self')
    (h : Exchanged Lines After n ts us) :
    Carries (Tracks Lines After n) (disjunction self ts) (disjunction self' us) := by
  unfold disjunction
  rcases h.eat "not" with ⟨hts, hus⟩ | ⟨ts', us', hts, hus, h'⟩ <;> simp only [hts, hus]
  · refine ih.bind (by simp) h fun s t ts us hs h => ?_
    rcases h.eat "and" with ⟨hts, hus⟩ | ⟨ts', us', hts, hus, h'⟩ <;>
      simp only [hts, hus, Option.none_or, Option.some_or]
    · rcases h.eat "or" with ⟨hts, hus⟩ | ⟨ts', us', hts, hus, h'⟩ <;> simp only [hts, hus]
      · exact .some ⟨hs, h⟩
      · exact ih.skip (by simp) h'
    · exact ih.skip (by simp) h'
  · exact ih.skip (by simp) h'

theorem eatComparison_eq (ts : List Lexeme) :
    eatComparison ts =
      match (eat "not" ts).bind (eat "in") with
      | some ts => some ts
      | none =>
        match (eat "is" ts).bind (eat "not") with
        | some ts => some ts
        | none =>
          if isAtAny ["==", "!=", "<=", "<", ">=", ">", "in", "is"] ts then some (ts.drop 1)
          else none := by
  unfold eatComparison
  split
  · rfl
  · rfl
  · next hnot his =>
      rw [eatTwo_eq_none (s := "not") (t := "in"), eatTwo_eq_none (s := "is") (t := "not")]
      · rfl
      · rintro line line' rest ⟨⟩
        exact his _ _ rfl rfl
      · rintro line line' rest ⟨⟩
        exact hnot _ _ rfl rfl
  · next hsign =>
      rw [eatTwo_eq_none fun line line' rest => hsign _ line _,
        eatTwo_eq_none fun line line' rest => hsign _ line _, isAtAny_eq_false _ hsign]
      rfl

/-- Two signs come next on both sides or on none. -/
theorem eatTwo (h : Exchanged Lines After n ts us) (u v : String) :
    (eat u ts).bind (eat v) = none ∧ (eat u us).bind (eat v) = none ∨
      ∃ ts' us', (eat u ts).bind (eat v) = some ts' ∧ (eat u us).bind (eat v) = some us' ∧
        Exchanged Lines After n ts' us' := by
  rcases h.eat u with ⟨hts, hus⟩ | ⟨ts', us', hts, hus, h'⟩ <;> rw [hts, hus]
  · exact .inl ⟨rfl, rfl⟩
  · exact h'.eat v

theorem eatComparison_exchanged (h : Exchanged Lines After n ts us) :
    eatComparison ts = none ∧ eatComparison us = none ∨
      ∃ ts' us', eatComparison ts = some ts' ∧ eatComparison us = some us' ∧
        Exchanged Lines After n ts' us' := by
  rw [eatComparison_eq, eatComparison_eq]
  rcases eatTwo h "not" "in" with ⟨hts, hus⟩ | ⟨ts', us', hts, hus, h'⟩ <;> simp only [hts, hus]
  · rcases eatTwo h "is" "not" with ⟨hts, hus⟩ | ⟨ts', us', hts, hus, h'⟩ <;> simp only [hts, hus]
    · rw [h.isAtAny]
      split
      · next hsign => exact .inr ⟨_, _, rfl, rfl, h.drop_one hsign⟩
      · exact .inl ⟨rfl, rfl⟩
    · exact .inr ⟨_, _, rfl, rfl, h'⟩
  · exact .inr ⟨_, _, rfl, rfl, h'⟩

theorem comparison_carries (ih : Carried Lines After n self self')
    (h : Exchanged Lines After n ts us) :
    Carries (Tracks Lines After n) (comparison self ts) (comparison self' us) := by
  unfold comparison
  refine ih.bind (by simp) h fun s t ts us hs h => ?_
  rcases eatComparison_exchanged h with ⟨hts, hus⟩ | ⟨ts', us', hts, hus, h'⟩ <;> simp only [hts, hus]
  · exact .some ⟨hs, h⟩
  · exact ih.skip (by simp) h'

theorem operands_carries (ih : Carried Lines After n self self')
    (h : Exchanged Lines After n ts us) :
    Carries (Tracks Lines After n) (operands self ts) (operands self' us) := by
  have hrest : ∀ s t ts us, s.Loosens t → Exchanged Lines After n ts us →
      Carries (Tracks Lines After n)
        (if isAtAny binarySigns ts then self .operands (ts.drop 1) >>= fun x => plain x.2
          else some (s, ts))
        (if isAtAny binarySigns us then self' .operands (us.drop 1) >>= fun x => plain x.2
          else some (t, us)) := by
    intro s t ts us hs h
    rw [h.isAtAny]
    split
    · next hsign => exact ih.skip (by simp) (h.drop_one hsign)
    · exact .some ⟨hs, h⟩
  unfold operands
  dsimp only
  rw [h.isAtAny]
  split
  · next hsign => exact ih.skip (by simp) (h.drop_one hsign)
  · rcases h.eat "await" with ⟨hts, hus⟩ | ⟨ts', us', hts, hus, h'⟩ <;> simp only [hts, hus]
    · exact ih.bind (by simp) h hrest
    · exact ih.bind (by simp) h' fun _ _ ts us _ h => hrest _ _ ts us (.refl _) h

theorem trailers_eq (self : Goal → Rule) (base : Shape) (ts : List Lexeme) :
    trailers self base ts =
      match (eat "." ts).bind eatName with
      | some (_, ts) => self (.trailers .member) ts
      | none =>
        match eat "(" ts with
        | some ts => self .call ts >>= fun x => eat ")" x.2 >>= fun ts => self (.trailers .other) ts
        | none =>
          match eat "[" ts with
          | some ts =>
            self .slices ts >>= fun x => eat "]" x.2 >>= fun ts => self (.trailers .member) ts
          | none => some (base, ts) := by
  unfold trailers
  split
  · rfl
  · rfl
  · rfl
  · next hpart hcall hslice =>
      rw [eatPart_eq_none hpart, eat_eq_none hcall, eat_eq_none hslice]

theorem trailers_carries (ih : Carried Lines After n self self') {s t : Shape} (hs : s.Loosens t)
    (h : Exchanged Lines After n ts us) :
    Carries (Tracks Lines After n) (trailers self s ts) (trailers self' t us) := by
  rw [trailers_eq, trailers_eq]
  rcases h.eatPart with ⟨hts, hus⟩ | ⟨u, ts', us', hts, hus, h'⟩ <;> simp only [hts, hus]
  · rcases h.eat "(" with ⟨hts, hus⟩ | ⟨ts', us', hts, hus, h'⟩ <;> simp only [hts, hus]
    · rcases h.eat "[" with ⟨hts, hus⟩ | ⟨ts', us', hts, hus, h'⟩ <;> simp only [hts, hus]
      · exact .some ⟨hs, h⟩
      · refine ih.bind (by simp) h' fun _ _ ts us _ h => ?_
        exact (h.carries_eat "]").bind fun ts us h => ih.goal (by simp) h
    · refine ih.bind (by simp) h' fun _ _ ts us _ h => ?_
      exact (h.carries_eat ")").bind fun ts us h => ih.goal (by simp) h
  · exact ih.goal (by simp) h'

theorem parenthesized_carries (ih : Carried Lines After n self self')
    (h : Exchanged Lines After n ts us) :
    Carries (Tracks Lines After n) (parenthesized self ts) (parenthesized self' us) := by
  unfold parenthesized
  rw [h.isAt, h.isAt]
  split
  · next hsign => exact .some ⟨.refl _, h.drop_sign hsign⟩
  · split
    · refine ih.bind (by simp) h fun _ _ ts us _ h => ?_
      exact (h.carries_eat ")").bind fun ts us h => .some ⟨.refl _, h⟩
    · refine ih.bind (by simp) h fun s t ts us hs h => ?_
      rcases h.eat "," with ⟨hts, hus⟩ | ⟨ts', us', hts, hus, h'⟩ <;> simp only [hts, hus]
      · rw [hs.starred, atClauses, atClauses, h.isAtAny]
        split
        · exact .none_left
        · split
          · refine ih.bind (by simp) h fun _ _ ts us _ h => ?_
            exact (h.carries_eat ")").bind fun ts us h => carries_plain h
          · exact (h.carries_eat ")").bind fun ts us h => .some ⟨hs.group, h⟩
      · refine ih.bind (by simp) h' fun _ _ ts us hr h => ?_
        exact (h.carries_eat ")").bind fun ts us h => .some ⟨(hs.cons hr.parts).tuple, h⟩

theorem bracketed_carries (ih : Carried Lines After n self self')
    (h : Exchanged Lines After n ts us) :
    Carries (Tracks Lines After n) (bracketed self ts) (bracketed self' us) := by
  unfold bracketed
  rw [h.isAt]
  split
  · next hsign => exact .some ⟨.refl _, h.drop_sign hsign⟩
  · refine ih.bind (by simp) h fun s t ts us hs h => ?_
    rcases h.eat "," with ⟨hts, hus⟩ | ⟨ts', us', hts, hus, h'⟩ <;> simp only [hts, hus]
    · rw [hs.starred, atClauses, atClauses, h.isAtAny]
      split
      · split
        · exact .none_left
        · refine ih.bind (by simp) h fun _ _ ts us _ h => ?_
          exact (h.carries_eat "]").bind fun ts us h => carries_plain h
      · exact (h.carries_eat "]").bind fun ts us h => .some ⟨(hs.cons (.refl [])).list, h⟩
    · refine ih.bind (by simp) h' fun _ _ ts us hr h => ?_
      exact (h.carries_eat "]").bind fun ts us h => .some ⟨(hs.cons hr.parts).list, h⟩

theorem setEnd_carries (ih : Carried Lines After n self self') {s t : Shape} (hs : s.Loosens t)
    (h : Exchanged Lines After n ts us) :
    Carries (Tracks Lines After n) (setEnd self s ts) (setEnd self' t us) := by
  unfold setEnd
  rw [hs.starred, atClauses, atClauses, h.isAtAny]
  split
  · split
    · exact .none_left
    · refine ih.bind (by simp) h fun _ _ ts us _ h => ?_
      exact (h.carries_eat "\x7d").bind fun ts us h => carries_plain h
  · rcases h.eat "," with ⟨hts, hus⟩ | ⟨ts', us', hts, hus, h'⟩ <;> simp only [hts, hus]
    · exact (h.carries_eat "\x7d").bind fun ts us h => carries_plain h
    · refine ih.bind (by simp) h' fun _ _ ts us _ h => ?_
      exact (h.carries_eat "\x7d").bind fun ts us h => carries_plain h

theorem braced_eq (self : Goal → Rule) (ts : List Lexeme) :
    braced self ts =
      match eat "\x7d" ts with
      | some ts => plain ts
      | none =>
        match eat "**" ts with
        | some ts => self .operands ts >>= fun x => self .entries x.2
        | none =>
          match eat "*" ts with
          | some ts => self .operands ts >>= fun x => setEnd self (.starred x.1) x.2
          | none =>
            match (eatName ts).bind fun p => eat ":=" p.2 with
            | some _ => self .named ts >>= fun x => setEnd self x.1 x.2
            | none =>
              self .expression ts >>= fun x =>
                match eat ":" x.2 with
                | none => setEnd self x.1 x.2
                | some ts =>
                  self .expression ts >>= fun y =>
                    if atClauses y.2 then
                      self .clauses y.2 >>= fun z => eat "\x7d" z.2 >>= plain
                    else self .entries y.2 := by
  unfold braced
  split
  · rfl
  · rfl
  · rfl
  · rfl
  · next hclose hdouble hstar hnamed =>
      rewrite [eat_eq_none hclose, eat_eq_none hdouble, eat_eq_none hstar, eatNamed_eq_none hnamed]
      rfl

theorem braced_carries (ih : Carried Lines After n self self') (h : Exchanged Lines After n ts us) :
    Carries (Tracks Lines After n) (braced self ts) (braced self' us) := by
  rw [braced_eq, braced_eq]
  rcases h.eat "\x7d" with ⟨hts, hus⟩ | ⟨ts', us', hts, hus, h'⟩ <;> simp only [hts, hus]
  · rcases h.eat "**" with ⟨hts, hus⟩ | ⟨ts', us', hts, hus, h'⟩ <;> simp only [hts, hus]
    · rcases h.eat "*" with ⟨hts, hus⟩ | ⟨ts', us', hts, hus, h'⟩ <;> simp only [hts, hus]
      · rcases h.eatNamed ":=" (by decide) with ⟨hts, hus⟩ | ⟨ts', us', hts, hus, -⟩ <;>
          simp only [hts, hus]
        · refine ih.bind (by simp) h fun s t ts us hs h => ?_
          rcases h.eat ":" with ⟨hts, hus⟩ | ⟨ts', us', hts, hus, h'⟩ <;> simp only [hts, hus]
          · exact setEnd_carries ih hs h
          · refine ih.bind (by simp) h' fun _ _ ts us _ h => ?_
            rw [atClauses, atClauses, h.isAtAny]
            split
            · refine ih.bind (by simp) h fun _ _ ts us _ h => ?_
              exact (h.carries_eat "\x7d").bind fun ts us h => carries_plain h
            · exact ih.goal (by simp) h
        · exact ih.bind (by simp) h fun s t ts us hs h => setEnd_carries ih hs h
      · exact ih.bind (by simp) h' fun s t ts us hs h => setEnd_carries ih hs.behindStar h
    · exact ih.bind (by simp) h' fun _ _ ts us _ h => ih.goal (by simp) h
  · exact carries_plain h'

theorem entries_carries (ih : Carried Lines After n self self')
    (h : Exchanged Lines After n ts us) :
    Carries (Tracks Lines After n) (entries self ts) (entries self' us) := by
  unfold entries
  rcases h.eat "," with ⟨hts, hus⟩ | ⟨ts', us', hts, hus, h⟩ <;> simp only [hts, hus]
  · exact (h.carries_eat "\x7d").bind fun ts us h => carries_plain h
  · rcases h.eat "\x7d" with ⟨hts, hus⟩ | ⟨ts', us', hts, hus, h'⟩ <;> simp only [hts, hus]
    · rcases h.eat "**" with ⟨hts, hus⟩ | ⟨ts', us', hts, hus, h'⟩ <;> simp only [hts, hus]
      · refine ih.bind (by simp) h fun _ _ ts us _ h => ?_
        refine (h.carries_eat ":").bind fun ts us h => ?_
        exact ih.bind (by simp) h fun _ _ ts us _ h => ih.goal (by simp) h
      · exact ih.bind (by simp) h' fun _ _ ts us _ h => ih.goal (by simp) h
    · exact carries_plain h'

theorem yield_carries (ih : Carried Lines After n self self') (h : Exchanged Lines After n ts us) :
    Carries (Tracks Lines After n) (yield self ts) (yield self' us) := by
  unfold yield
  refine (h.carries_eat "yield").bind fun ts us h => ?_
  rcases h.eat "from" with ⟨hts, hus⟩ | ⟨ts', us', hts, hus, h'⟩ <;> simp only [hts, hus]
  · rw [h.canStart, h.isAt]
    split
    · exact ih.skip (by simp) h
    · exact carries_plain h
  · exact ih.skip (by simp) h'

theorem conditions_carries (ih : Carried Lines After n self self')
    (h : Exchanged Lines After n ts us) :
    Carries (Tracks Lines After n) (conditions self ts) (conditions self' us) := by
  unfold conditions
  rcases h.eat "if" with ⟨hts, hus⟩ | ⟨ts', us', hts, hus, h'⟩ <;> simp only [hts, hus]
  · rw [atClauses, atClauses, h.isAtAny]
    split
    · exact ih.goal (by simp) h
    · exact carries_plain h
  · exact ih.bind (by simp) h' fun _ _ ts us _ h => ih.goal (by simp) h

theorem eat_getD (h : Exchanged Lines After n ts us) (s : String) :
    Exchanged Lines After n ((eat s ts).getD ts) ((eat s us).getD us) := by
  rcases h.eat s with ⟨hts, hus⟩ | ⟨ts', us', hts, hus, h'⟩ <;> rw [hts, hus]
  · exact h
  · exact h'

theorem clauses_carries (ih : Carried Lines After n self self')
    (h : Exchanged Lines After n ts us) :
    Carries (Tracks Lines After n) (clauses self ts) (clauses self' us) := by
  unfold clauses
  refine ((eat_getD h "async").carries_eat "for").bind fun ts us h => ?_
  refine ih.bind (by simp) h fun _ _ ts us _ h => ?_
  refine (h.carries_eat "in").bind fun ts us h => ?_
  exact ih.bind (by simp) h fun _ _ ts us _ h => ih.goal (by simp) h

theorem targets_carries (ih : Carried Lines After n self self')
    (h : Exchanged Lines After n ts us) :
    Carries (Tracks Lines After n) (targets self ts) (targets self' us) := by
  unfold targets
  refine ih.bind (by simp) (eat_getD h "*") fun s t ts us hs h => ?_
  dsimp only
  cases htarget : s.isTarget with
  | false => exact .none_left
  | true =>
      rw [hs.target htarget]
      rcases h.eat "," with ⟨hts, hus⟩ | ⟨ts', us', hts, hus, h'⟩ <;> simp only [hts, hus]
      · exact carries_plain h
      · rw [h'.isAt]
        cases isAt "in" ts' with
        | true => exact carries_plain h'
        | false => exact ih.goal (by simp) h'

theorem argument_eq (self : Goal → Rule) (stage : ArgumentStage) (ts : List Lexeme) :
    argument self stage ts =
      match eat "**" ts with
      | some ts => self .expression ts >>= fun x => some (.doubled, x.2)
      | none =>
        match eat "*" ts with
        | some ts =>
          if stage = .doubled then none else self .expression ts >>= fun x => some (stage, x.2)
        | none =>
          match (eatName ts).bind fun p => eat "=" p.2 with
          | some ts =>
            self .expression ts >>= fun x =>
              some (if stage = .doubled then .doubled else .keyword, x.2)
          | none =>
            if stage ≠ .positional then none
            else self .named ts >>= fun x => some (.positional, x.2) := by
  unfold argument
  split
  · rfl
  · next ts =>
      dsimp only
      split <;> rfl
  · rfl
  · next hdouble hstar hnamed =>
      rw [eat_eq_none hdouble, eat_eq_none hstar, eatNamed_eq_none hnamed]
      dsimp only
      split <;> rfl

theorem argument_carries (ih : Carried Lines After n self self') (stage : ArgumentStage)
    (h : Exchanged Lines After n ts us) :
    Carries (Keeps Lines After n) (argument self stage ts) (argument self' stage us) := by
  rw [argument_eq, argument_eq]
  rcases h.eat "**" with ⟨hts, hus⟩ | ⟨ts', us', hts, hus, h'⟩ <;> simp only [hts, hus]
  · rcases h.eat "*" with ⟨hts, hus⟩ | ⟨ts', us', hts, hus, h'⟩ <;> simp only [hts, hus]
    · rcases h.eatNamed "=" (by decide) with ⟨hts, hus⟩ | ⟨ts', us', hts, hus, h'⟩ <;>
        simp only [hts, hus]
      · split
        · exact .none_left
        · exact ih.bind (by simp) h fun _ _ ts us _ h => .some ⟨rfl, h⟩
      · exact ih.bind (by simp) h' fun _ _ ts us _ h => .some ⟨rfl, h⟩
    · split
      · exact .none_left
      · exact ih.bind (by simp) h' fun _ _ ts us _ h => .some ⟨rfl, h⟩
  · exact ih.bind (by simp) h' fun _ _ ts us _ h => .some ⟨rfl, h⟩

theorem arguments_carries (ih : Carried Lines After n self self') (stage : ArgumentStage)
    (h : Exchanged Lines After n ts us) :
    Carries (Tracks Lines After n) (arguments self stage ts) (arguments self' stage us) := by
  unfold arguments
  rw [h.isAt]
  split
  · exact carries_plain h
  · refine (argument_carries ih stage h).bind_keeps fun stage ts us h => ?_
    dsimp only
    rcases h.eat "," with ⟨hts, hus⟩ | ⟨ts', us', hts, hus, h'⟩ <;> simp only [hts, hus]
    · rw [h.isAt]
      split
      · exact carries_plain h
      · exact .none_left
    · exact ih.goal (by simp) h'

theorem isPositional_eq (ts : List Lexeme) :
    isPositional ts =
      (!isAtAny ["*", "**", ")"] ts && ((eatName ts).bind fun p => eat "=" p.2).isNone) := by
  unfold isPositional
  split
  · next s line ts =>
      show (s != "*" && s != "**" && s != ")") = (!(["*", "**", ")"].contains s) && true)
      simp only [List.contains_cons, List.contains_nil, Bool.or_false, Bool.not_or, Bool.and_true,
        bne, Bool.and_assoc]
  · rfl
  · next hsign hnamed =>
      rw [isAtAny_eq_false _ hsign, eatNamed_eq_none hnamed]
      rfl

theorem isPositional_exchanged (h : Exchanged Lines After n ts us) :
    isPositional us = isPositional ts := by
  rw [isPositional_eq, isPositional_eq, h.isAtAny]
  rcases h.eatNamed "=" (by decide) with ⟨hts, hus⟩ | ⟨ts', us', hts, hus, -⟩ <;> rw [hts, hus]
  rfl

theorem call_carries (ih : Carried Lines After n self self') (h : Exchanged Lines After n ts us) :
    Carries (Tracks Lines After n) (call self ts) (call self' us) := by
  unfold call
  rw [isPositional_exchanged h]
  split
  · refine ih.bind (by simp) h fun _ _ ts us _ h => ?_
    dsimp only
    rw [atClauses, atClauses, h.isAtAny]
    split
    · exact ih.skip (by simp) h
    · rcases h.eat "," with ⟨hts, hus⟩ | ⟨ts', us', hts, hus, h'⟩ <;> simp only [hts, hus]
      · exact carries_plain h
      · exact ih.goal (by simp) h'
  · exact ih.goal (by simp) h

/-! ## Subscripts and parameters -/

theorem bound_carries (ih : Carried Lines After n self self') (h : Exchanged Lines After n ts us) :
    Carries (Exchanged Lines After n) (bound self ts) (bound self' us) := by
  unfold bound
  rw [h.isAtAny]
  split
  · exact .some h
  · exact (ih.goal (by simp) h).map fun _ _ h => h.2

theorem bounds_carries (ih : Carried Lines After n self self') (h : Exchanged Lines After n ts us) :
    Carries (Exchanged Lines After n) (bounds self ts) (bounds self' us) := by
  unfold bounds
  refine (bound_carries ih h).bind fun ts us h => ?_
  rcases h.eat ":" with ⟨hts, hus⟩ | ⟨ts', us', hts, hus, h'⟩ <;> simp only [hts, hus]
  · exact .some h
  · exact bound_carries ih h'

theorem slice_eq (self : Goal → Rule) (ts : List Lexeme) :
    slice self ts =
      match eat "*" ts with
      | some ts => (self .expression ts).map (·.2)
      | none =>
        match eat ":" ts with
        | some ts => bounds self ts
        | none =>
          match (eatName ts).bind fun p => eat ":=" p.2 with
          | some _ => (self .named ts).map (·.2)
          | none =>
            self .expression ts >>= fun x =>
              match eat ":" x.2 with
              | some ts => bounds self ts
              | none => some x.2 := by
  unfold slice
  split
  · rfl
  · rfl
  · rfl
  · next hstar hcolon hnamed =>
      rewrite [eat_eq_none hstar, eat_eq_none hcolon, eatNamed_eq_none hnamed]
      rfl

theorem slice_carries (ih : Carried Lines After n self self') (h : Exchanged Lines After n ts us) :
    Carries (Exchanged Lines After n) (slice self ts) (slice self' us) := by
  rw [slice_eq, slice_eq]
  rcases h.eat "*" with ⟨hts, hus⟩ | ⟨ts', us', hts, hus, h'⟩ <;> simp only [hts, hus]
  · rcases h.eat ":" with ⟨hts, hus⟩ | ⟨ts', us', hts, hus, h'⟩ <;> simp only [hts, hus]
    · rcases h.eatNamed ":=" (by decide) with ⟨hts, hus⟩ | ⟨ts', us', hts, hus, -⟩ <;>
        simp only [hts, hus]
      · refine ih.bind (by simp) h fun _ _ ts us _ h => ?_
        rcases h.eat ":" with ⟨hts, hus⟩ | ⟨ts', us', hts, hus, h'⟩ <;> simp only [hts, hus]
        · exact .some h
        · exact bounds_carries ih h'
      · exact (ih.goal (by simp) h).map fun _ _ h => h.2
    · exact bounds_carries ih h'
  · exact (ih.goal (by simp) h').map fun _ _ h => h.2

theorem slices_carries (ih : Carried Lines After n self self') (h : Exchanged Lines After n ts us) :
    Carries (Tracks Lines After n) (slices self ts) (slices self' us) := by
  unfold slices
  refine (slice_carries ih h).bind fun ts us h => ?_
  rcases h.eat "," with ⟨hts, hus⟩ | ⟨ts', us', hts, hus, h'⟩ <;> simp only [hts, hus]
  · exact carries_plain h
  · rw [h'.isAt]
    split
    · exact carries_plain h'
    · exact ih.goal (by simp) h'

theorem annotation_carries (ih : Carried Lines After n self self') (annotated : Bool) {g : Goal}
    (hg : g ≠ .atom) (h : Exchanged Lines After n ts us) :
    Carries (Exchanged Lines After n) ( annotation self annotated g ts)
      ( annotation self' annotated g us) := by
  unfold annotation
  rw [h.isAt]
  split
  · next hsign =>
      have hsign := (Bool.and_eq_true _ _ ▸ hsign).2
      exact (ih.goal hg (h.drop_sign hsign)).map fun _ _ h => h.2
  · exact .some h

theorem parameterEnd_carries (ih : Carried Lines After n self self') (annotated : Bool)
    (stage : ParameterStage) (h : Exchanged Lines After n ts us) :
    Carries (Tracks Lines After n) (parameterEnd self annotated stage ts)
      (parameterEnd self' annotated stage us) := by
  unfold parameterEnd
  rcases h.eat "," with ⟨hts, hus⟩ | ⟨ts', us', hts, hus, h'⟩ <;> simp only [hts, hus]
  · rw [h.isAt]
    split
    · exact carries_plain h
    · exact .none_left
  · exact ih.goal (by simp) h'

theorem parameter_carries (ih : Carried Lines After n self self') (annotated : Bool)
    (h : Exchanged Lines After n ts us) :
    Carries (Keeps Lines After n) (parameter self annotated ts) (parameter self' annotated us) := by
  unfold parameter
  refine h.carries_eatName.bind_keeps fun _ ts us h => ?_
  refine (annotation_carries ih annotated (by simp) h).bind fun ts us h => ?_
  rcases h.eat "=" with ⟨hts, hus⟩ | ⟨ts', us', hts, hus, h'⟩ <;> simp only [hts, hus]
  · exact .some ⟨rfl, h⟩
  · exact (ih.goal (by simp) h').map fun _ _ h => ⟨rfl, h.2⟩

theorem starParameter_carries (ih : Carried Lines After n self self') (annotated : Bool)
    (h : Exchanged Lines After n ts us) :
    Carries (Tracks Lines After n) (starParameter self annotated ts)
      (starParameter self' annotated us) := by
  unfold starParameter
  rcases h.eat "," with ⟨hts, hus⟩ | ⟨ts', us', hts, hus, h'⟩ <;> simp only [hts, hus]
  · refine h.carries_eatName.bind_keeps fun _ ts us h => ?_
    refine (annotation_carries ih annotated (by simp) h).bind fun ts us h => ?_
    exact parameterEnd_carries ih annotated .after h
  · cases hname : eatName ts' with
    | none => exact .none_left
    | some p =>
        obtain ⟨us'', hname', -⟩ := h'.eatName hname
        rw [hname']
        exact ih.goal (by simp) h'

theorem doubleStarParameter_carries (annotated : Bool) (ih : Carried Lines After n self self')
    (h : Exchanged Lines After n ts us) :
    Carries (Tracks Lines After n) (doubleStarParameter self annotated ts)
      (doubleStarParameter self' annotated us) := by
  unfold doubleStarParameter
  refine h.carries_eatName.bind_keeps fun _ ts us h => ?_
  refine (annotation_carries ih annotated (by simp) h).bind fun ts us h => ?_
  dsimp only
  rw [(eat_getD h ",").isAt]
  split
  · exact carries_plain (eat_getD h ",")
  · exact .none_left

theorem parameters_carries (ih : Carried Lines After n self self') (annotated : Bool)
    (stage : ParameterStage) (h : Exchanged Lines After n ts us) :
    Carries (Tracks Lines After n) (parameters self annotated stage ts)
      (parameters self' annotated stage us) := by
  unfold parameters
  rw [h.isAt]
  split
  · exact carries_plain h
  · rcases h.eat "**" with ⟨hts, hus⟩ | ⟨ts', us', hts, hus, h'⟩ <;> simp only [hts, hus]
    · cases stage with
      | before any default slash =>
          rcases h.eat "*" with ⟨hts, hus⟩ | ⟨ts', us', hts, hus, h'⟩ <;> simp only [hts, hus]
          · rcases h.eat "/" with ⟨hts, hus⟩ | ⟨ts', us', hts, hus, h'⟩ <;> simp only [hts, hus]
            · refine (parameter_carries ih annotated h).bind_keeps fun hasDefault ts us h => ?_
              dsimp only
              split
              · exact .none_left
              · exact parameterEnd_carries ih annotated _ h
            · split
              · exact parameterEnd_carries ih annotated _ h'
              · exact .none_left
          · exact starParameter_carries ih annotated h'
      | after =>
          exact (parameter_carries ih annotated h).bind_keeps fun _ ts us h =>
            parameterEnd_carries ih annotated .after h
    · exact doubleStarParameter_carries annotated ih h'

/-! ## Atoms -/

/-- The texts that come next. -/
def leadingTexts (ts : List Lexeme) : List TextLiteral :=
  ts.map (·.token) |>.takeWhile (fun t => t matches .text _) |>.filterMap fun t =>
    match t with
    | .text l => some l
    | _ => none

theorem texts_eq (ts : List Lexeme) :
    texts ts =
      if (leadingTexts ts).all (·.bytes) then plain (ts.drop (leadingTexts ts).length)
      else if (leadingTexts ts).any (·.bytes) then none
      else if (leadingTexts ts).any (·.formatted) then plain (ts.drop (leadingTexts ts).length)
      else some (.text, ts.drop (leadingTexts ts).length) := rfl

theorem leadingTexts_eq_nil (h : atText ts = false) : leadingTexts ts = [] := by
  cases ts with
  | nil => rfl
  | cons x ts =>
      obtain ⟨t, line⟩ := x
      cases t with
      | text l => cases h
      | _ => rfl

@[simp]
theorem leadingTexts_cons (l : TextLiteral) (line : Nat) (ts : List Lexeme) :
    leadingTexts (⟨.text l, line⟩ :: ts) = l :: leadingTexts ts := rfl

theorem leadingTexts_exchanged (h : Exchanged Lines After n ts us) (htext : atText us = atText ts) :
    leadingTexts us = leadingTexts ts ∧
      Exchanged Lines After n (ts.drop (leadingTexts ts).length)
        (us.drop (leadingTexts ts).length) := by
  induction h with
  | nil hafter => exact ⟨rfl, .nil hafter⟩
  | newline hline hafter => exact ⟨rfl, .newline hline hafter⟩
  | swap _ hnext _ _ => cases htext
  | @keep n line line' t ts us hline ht hnext h ih =>
      cases t with
      | text l =>
          obtain ⟨heq, hrest⟩ := ih (hnext rfl)
          rw [leadingTexts_cons, leadingTexts_cons, heq]
          exact ⟨rfl, hrest⟩
      | _ => exact ⟨rfl, .keep hline ht hnext h⟩

theorem texts_carries (h : Exchanged Lines After n ts us) (htext : atText us = atText ts) :
    Carries (Tracks Lines After n) (texts ts) (texts us) := by
  obtain ⟨heq, hrest⟩ := leadingTexts_exchanged h htext
  rw [texts_eq, texts_eq, heq]
  split
  · exact carries_plain hrest
  · split
    · exact .none_left
    · split
      · exact carries_plain hrest
      · exact .some ⟨.refl _, hrest⟩

theorem atom_carries (ih : Carried Lines After n self self') (h : Exchanged Lines After n ts us)
    (htext : atText us = atText ts) :
    Carries (Tracks Lines After n) (atom self ts) (atom self' us) := by
  cases h with
  | nil => exact .none_left
  | newline _ _ => exact .none_left
  | swap _ _ _ => cases htext
  | @keep n line line' t ts us hline ht hnext h =>
      cases t with
      | name s => exact .some ⟨.refl _, h⟩
      | number s => exact carries_plain h
      | text l => exact texts_carries (.keep hline ht hnext h) htext
      | newline => exact .none_left
      | indent => exact .none_left
      | dedent => exact .none_left
      | sign s =>
          by_cases hparen : s = "("
          · subst hparen
            exact parenthesized_carries ih h
          · by_cases hbracket : s = "["
            · subst hbracket
              exact bracketed_carries ih h
            · by_cases hbrace : s = "\x7b"
              · subst hbrace
                exact ih.goal (by simp) h
              · simp only [atom]
                split
                · exact carries_plain h
                · exact .none_left

/-- All rules carry over but the ones for which a reference is not what a text is. -/
theorem rule_carries (ih : Carried Lines After n self self') {g g' : Goal} (hg : g.Loosens g')
    (hprimary : g ≠ .primary) (h : Exchanged Lines After n ts us) :
    Carries (Tracks Lines After n) (rule self g ts) (rule self' g' us) := by
  cases hg with
  | trailers hs => exact trailers_carries ih hs h
  | same hg =>
      cases g with
      | atom => exact (hg rfl).elim
      | primary => exact (hprimary rfl).elim
      | stars => exact stars_carries ih h
      | star => exact orStarred_carries ih (by simp) h
      | named => exact named_carries ih h
      | starNamed => exact orStarred_carries ih (by simp) h
      | more isNamed => exact more_carries ih isNamed h
      | expression => exact expression_carries ih h
      | disjunction => exact disjunction_carries ih h
      | comparison => exact comparison_carries ih h
      | operands => exact operands_carries ih h
      | trailers base => exact trailers_carries ih (.refl base) h
      | yield => exact yield_carries ih h
      | clauses => exact clauses_carries ih h
      | conditions => exact conditions_carries ih h
      | targets => exact targets_carries ih h
      | call => exact call_carries ih h
      | arguments stage => exact arguments_carries ih stage h
      | slices => exact slices_carries ih h
      | braced => exact braced_carries ih h
      | entries => exact entries_carries ih h
      | parameters annotated stage => exact parameters_carries ih annotated stage h

end Rules

/-! ## Reading -/

theorem run_succ (k : Nat) (g : Goal) (ts : List Lexeme) :
    run (k + 1) g ts = rule (run k) g ts := rfl

/-- A text in front of a closing bracket is a subscript. -/
theorem run_subscript (k : Nat) (name : List Char) (line line' : Nat) (us : List Lexeme) :
    run (k + 7) .slices (⟨.text ⟨false, false, false, name⟩, line⟩ :: ⟨.sign "]", line'⟩ :: us) =
      some (.other, ⟨.sign "]", line'⟩ :: us) := by
  generalize hts : (⟨.text ⟨false, false, false, name⟩, line⟩ :: ⟨.sign "]", line'⟩ :: us :
    List Lexeme) = ts
  generalize hrest : (⟨.sign "]", line'⟩ :: us : List Lexeme) = rest
  have htext : ∀ s, eat s ts = none := fun s => by rw [← hts]; rfl
  have htexts : ∀ signs, isAtAny signs ts = false := fun signs => by rw [← hts]; rfl
  have hclose : ∀ s, s ≠ "]" → eat s rest = none := fun s hs => by simp [← hrest, eat, hs.symm]
  have hatom : run (k + 1) .atom ts = some (.text, rest) := by
    simp [run_succ, rule, ← hts, ← hrest, atom, texts]
  have htrailers : run (k + 1) (.trailers .text) rest = some (.text, rest) := by
    rw [run_succ, rule, trailers_eq, hclose "." (by decide), hclose "(" (by decide),
      hclose "[" (by decide)]
    rfl
  have hprimary : run (k + 2) .primary ts = some (.text, rest) := by
    rw [run_succ, rule, primary, hatom]
    exact htrailers
  have hoperands : run (k + 3) .operands ts = some (.text, rest) := by
    have hbinary : isAtAny binarySigns rest = false := by
      rw [← hrest, isAtAny]
      decide
    rw [run_succ, rule, operands, htexts, htext, hprimary]
    simp [hbinary]
  have hcomparison : run (k + 4) .comparison ts = some (.text, rest) := by
    rw [run_succ, rule, comparison, hoperands]
    simp [← hrest, eatComparison]
  have hdisjunction : run (k + 5) .disjunction ts = some (.text, rest) := by
    rw [run_succ, rule, disjunction, htext, hcomparison]
    simp [hclose]
  have hexpression : run (k + 6) .expression ts = some (.text, rest) := by
    rw [run_succ, rule, expression, htext, hdisjunction]
    simp [hclose]
  rw [run_succ, rule, slices, slice_eq, htext, htext, ← hts]
  simp only [eatName, Option.bind_none]
  rw [hts, hexpression]
  simp [hclose, plain]

/-- A reference is an atom with a part and a subscript. -/
theorem run_primary_reference (k : Nat) (name : List Char) (line : Nat) (us : List Lexeme) :
    run (k + 10) .primary (referenceTokens name line ++ us) =
      run (k + 7) (.trailers .member) us := by
  have hatom : ∀ ts, run (k + 9) .atom (⟨.name "os", line⟩ :: ts) = some (.name, ts) := fun _ => rfl
  have hpart : ∀ ts, run (k + 9) (.trailers .name)
      (⟨.sign ".", line⟩ :: ⟨.name "environ", line⟩ :: ts) = run (k + 8) (.trailers .member) ts := by
    intro ts
    rw [run_succ, rule, trailers_eq]
    simp [eat, eatName]
  have hsubscript : run (k + 8) (.trailers .member) (⟨.sign "[", line⟩ ::
      ⟨.text ⟨false, false, false, name⟩, line⟩ :: ⟨.sign "]", line⟩ :: us) =
      run (k + 7) (.trailers .member) us := by
    rw [run_succ, rule, trailers_eq]
    simp [eat, run_subscript]
  rw [run_succ, rule, primary]
  show (run (k + 9) .atom _ >>= fun x => run (k + 9) (.trailers x.1) x.2) = _
  rw [referenceTokens, List.cons_append, hatom, Option.bind_eq_bind, Option.bind_some]
  exact (hpart _).trans hsubscript

/-- What begins with a text that did not give way, and what begins with one that did. -/
theorem run_primary_carries {k m : Nat} (hm : k + 1 + 12 * n ≤ m + 1)
    (ih : ∀ k' ≤ k, ∀ n m, k' + 12 * n ≤ m → Carried Lines After n (run k') (run m))
    (h : Exchanged Lines After n ts us) :
    Carries (Tracks Lines After n) (run (k + 1) .primary ts) (run (m + 1) .primary us) := by
  have hself : Carried Lines After n (run k) (run m) := ih k (Nat.le_refl k) n m (by omega)
  by_cases htext : atText us = atText ts
  · have hatom : Carries (Tracks Lines After n) (run k .atom ts) (run m .atom us) := by
      cases k with
      | zero => exact .none_left
      | succ k =>
          cases m with
          | zero => omega
          | succ m => exact atom_carries (ih k (Nat.le_succ k) n m (by omega)) h htext
    exact hatom.bind fun a b hab => hself (.trailers hab.1) hab.2
  · cases h with
    | nil _ => exact (htext rfl).elim
    | newline _ _ => exact (htext rfl).elim
    | @keep _ _ _ t => exact (htext (by cases t <;> rfl)).elim
    | @swap n line line' body name ts us _ hnext h =>
        obtain ⟨j, rfl⟩ : ∃ j, m = j + 9 := ⟨m - 9, by omega⟩
        cases k with
        | zero => exact .none_left
        | succ k =>
            have hread : run (k + 2) .primary
                (⟨.text ⟨false, false, false, body⟩, line⟩ :: ts) =
                  run (k + 1) (.trailers .text) ts := by
              rw [run_succ, rule, primary, run_succ, rule, atom, texts_eq, leadingTexts_cons,
                leadingTexts_eq_nil hnext]
              rfl
            rw [hread, run_primary_reference]
            intro a ha
            obtain ⟨b, hb, hs, hab⟩ := ih (k + 1) (Nat.le_refl _) n (j + 7) (by omega)
              (.trailers .text_member) h a ha
            exact ⟨b, hb, hs, hab.mono (Nat.le_succ n)⟩

/-- Reading carries over if there is more fuel, for each text that gave way as much as the
reference in its place takes. -/
theorem run_carries (k : Nat) : ∀ n m, k + 12 * n ≤ m → Carried Lines After n (run k) (run m) := by
  induction k using Nat.strongRecOn with
  | ind k ih =>
      intro n m hm g g' ts us hg h
      cases k with
      | zero => exact .none_left
      | succ k =>
          cases m with
          | zero => omega
          | succ m =>
              have ih : ∀ k' ≤ k, ∀ n m, k' + 12 * n ≤ m → Carried Lines After n (run k') (run m) :=
                fun k' hk' => ih k' (Nat.lt_succ_of_le hk')
              by_cases hprimary : g = .primary
              · subst hprimary
                cases hg
                exact run_primary_carries hm ih h
              · exact rule_carries (ih k (Nat.le_refl k) n m (by omega)) hg hprimary h

/-- What is read as an expression is read as one after texts in it gave way. -/
theorem read_carries (h : Exchanged Lines After n ts us) {g : Goal} (hg : g ≠ .atom) :
    Carries (Tracks Lines After n) (read g ts) (read g us) := by
  obtain ⟨k, hk, hexact, hlen⟩ := h.lineLength
  have hfuel : depthPerToken * (lineLength ts + 1) + 12 * k ≤
      depthPerToken * (lineLength us + 1) := by
    rw [depthPerToken, hlen]
    omega
  intro a ha
  obtain ⟨b, hb, hs, hab⟩ := run_carries _ k _ hfuel (.same hg) hexact a ha
  exact ⟨b, hb, hs, hab.mono hk⟩

end SecretScan.Script.Expression

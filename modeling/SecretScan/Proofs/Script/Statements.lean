import SecretScan.Proofs.Script.CasePatterns
import SecretScan.Proofs.Script.SimpleStatements
import SecretScan.Script.Program

/-!
# Scripts in which texts gave way to references

The lines of a script are read one after another, and in most of them texts may give way.
There are rigid lines in which none may: the ones with patterns, where no reference may
stand, and the ones of which it only shows at their end what they are. What is read as a
script is read as one after texts in its other lines gave way (`readAll_carries`).
-/

namespace SecretScan.Script

/-- Whether nothing may give way in a line: it begins a comparison of cases or a case, or
managers between parentheses may follow. -/
def isRigid : List Lexeme → Bool
  | ⟨.indent, _⟩ :: ts => isRigid ts
  | ⟨.dedent, _⟩ :: ts => isRigid ts
  | ⟨.name s, _⟩ :: _ => s == "match" || s == "case"
  | ⟨.sign s, _⟩ :: ts =>
    s == "with" && isAt "(" ts || s == "async" && ((eat "with" ts).any (isAt "("))
  | _ => false

section

variable (Lines : Nat → Nat → Prop) (most : Nat)

/-- In so many lines, texts gave way to references, at most so many in each, but not in the rigid
ones. -/
def ExchangedWithin : Nat → List Lexeme → List Lexeme → Prop
  | 0, ts, us => ts = [] ∧ us = []
  | k + 1, ts, us =>
    ∃ n ≤ most, Exchanged Lines (ExchangedWithin k) n ts us ∧ (isRigid ts = true → n = 0)

/-- The tokens of two scripts of which the second one has references where the first one has
texts, at most so many in each line, but not in rigid lines. -/
def ExchangedLines (ts us : List Lexeme) : Prop := ∃ k, ExchangedWithin Lines most k ts us

end

section

variable {Lines : Nat → Nat → Prop} {most : Nat} {ts us : List Lexeme}

theorem exchangedLines_nil : ExchangedLines Lines most [] [] := ⟨0, rfl, rfl⟩

theorem exchangedLines_iff :
    ExchangedLines Lines most ts us ↔
      ∃ n ≤ most, Exchanged Lines (ExchangedLines Lines most) n ts us ∧
        (isRigid ts = true → n = 0) := by
  constructor
  · rintro ⟨k, h⟩
    cases k with
    | zero =>
        obtain ⟨rfl, rfl⟩ := h
        exact ⟨0, Nat.zero_le _, .nil exchangedLines_nil, fun _ => rfl⟩
    | succ k =>
        obtain ⟨n, hn, h, hrigid⟩ := h
        exact ⟨n, hn, h.imp fun _ _ h => ⟨k, h⟩, hrigid⟩
  · rintro ⟨n, hn, h, hrigid⟩
    suffices hk : ∃ k, Exchanged Lines (ExchangedWithin Lines most k) n ts us by
      obtain ⟨k, h⟩ := hk
      exact ⟨k + 1, n, hn, h, hrigid⟩
    clear hrigid hn
    induction h with
    | nil _ => exact ⟨0, .nil ⟨rfl, rfl⟩⟩
    | newline hline hafter =>
        obtain ⟨k, h⟩ := hafter
        exact ⟨k, .newline hline h⟩
    | keep hline ht htext _ ih =>
        obtain ⟨k, h⟩ := ih
        exact ⟨k, .keep hline ht htext h⟩
    | swap hline htext _ ih =>
        obtain ⟨k, h⟩ := ih
        exact ⟨k, .swap hline htext h⟩

/-- Where nothing gave way in any line the tokens are the same. -/
theorem exchangedLines_zero :
    ExchangedLines Lines 0 ts us ↔ List.Forall₂ (Lexeme.Alike Lines) ts us := by
  constructor
  · rintro ⟨k, h⟩
    induction k generalizing ts us with
    | zero =>
        obtain ⟨rfl, rfl⟩ := h
        exact .nil
    | succ k ih =>
        obtain ⟨n, hn, h, -⟩ := h
        induction h with
        | nil _ => exact .nil
        | newline hline hafter => exact .cons ⟨rfl, hline⟩ (ih hafter)
        | keep hline _ _ _ ih => exact .cons ⟨rfl, hline⟩ (ih hn)
        | swap _ _ _ _ => exact absurd hn (Nat.not_succ_le_zero _)
  · intro h
    induction h with
    | nil => exact exchangedLines_nil
    | @cons t u ts us htu _ ih =>
        obtain ⟨t, line⟩ := t
        obtain ⟨u, line'⟩ := u
        obtain ⟨rfl, hline⟩ : t = u ∧ Lines line line' := htu
        by_cases ht : t = .newline
        · subst ht
          exact exchangedLines_iff.2 ⟨0, Nat.le_refl 0, .newline hline ih, fun _ => rfl⟩
        · obtain ⟨n, hn, h, -⟩ := exchangedLines_iff.1 ih
          obtain rfl : n = 0 := Nat.le_zero.1 hn
          exact exchangedLines_iff.2
            ⟨0, Nat.le_refl 0, .keep hline ht (fun _ => h.atText_zero) h, fun _ => rfl⟩

theorem ExchangedLines.inside (h : ExchangedLines Lines most ts us) :
    ∃ n ≤ most, Exchanged Lines (ExchangedLines Lines most) n ts us := by
  obtain ⟨n, hn, h, -⟩ := exchangedLines_iff.1 h
  exact ⟨n, hn, h⟩

theorem ExchangedLines.length_le (h : ExchangedLines Lines most ts us) :
    ts.length ≤ us.length := by
  obtain ⟨k, h⟩ := h
  induction k generalizing ts us with
  | zero =>
      obtain ⟨rfl, rfl⟩ := h
      exact Nat.le_refl 0
  | succ k ih =>
      obtain ⟨n, -, h, -⟩ := h
      induction h with
      | nil _ => exact Nat.le_refl 0
      | newline _ hafter => exact Nat.succ_le_succ (ih hafter)
      | keep _ _ _ _ ih => exact Nat.succ_le_succ ih
      | swap _ _ _ ih =>
          simp only [List.length_cons, List.length_append, referenceTokens, List.length_nil]
          omega

end

namespace Statement

variable {Lines : Nat → Nat → Prop} {most n : Nat} {ts us : List Lexeme}

/-- The beginning or the end of a block comes next on both sides or on none. -/
theorem eatLayout_margin (h : ExchangedLines Lines most ts us) {t : Token}
    (ht : t = .indent ∨ t = .dedent) :
    (eatLayout t ts = none ∧ eatLayout t us = none) ∨
      ∃ ts' us', eatLayout t ts = some ts' ∧ eatLayout t us = some us' ∧
        ExchangedLines Lines most ts' us' := by
  obtain ⟨n, hle, hn, hrigid⟩ := exchangedLines_iff.1 h
  cases hn with
  | nil _ => exact .inl ⟨rfl, rfl⟩
  | newline _ _ => exact .inl (by rcases ht with rfl | rfl <;> exact ⟨rfl, rfl⟩)
  | swap _ _ _ => exact .inl (by rcases ht with rfl | rfl <;> exact ⟨rfl, rfl⟩)
  | @keep _ line line' u ts us _ _ _ hrest =>
      by_cases hu : u = t
      · refine .inr ⟨ts, us, if_pos hu, if_pos hu, exchangedLines_iff.2 ⟨n, hle, hrest, ?_⟩⟩
        subst hu
        rcases ht with rfl | rfl <;> exact hrigid
      · exact .inl ⟨if_neg hu, if_neg hu⟩

theorem carries_margin (h : ExchangedLines Lines most ts us) {t : Token}
    (ht : t = .indent ∨ t = .dedent) :
    Carries (ExchangedLines Lines most) (eatLayout t ts) (eatLayout t us) := by
  rcases eatLayout_margin h ht with ⟨hts, -⟩ | ⟨ts', us', hts, hus, h'⟩
  · rw [hts]
    exact .none_left
  · rw [hts, hus]
    exact .some h'

/-! ## Heads of compound statements -/

section Heads

variable {After : List Lexeme → List Lexeme → Prop} {k m : Nat}

theorem manager_carries (h : Exchanged Lines After n ts us) :
    Carries (Exchanged Lines After n) (manager ts) (manager us) := by
  unfold manager
  refine (skip_carries h (by simp)).bind fun ts us h => ?_
  rcases h.eat "as" with ⟨hts, hus⟩ | ⟨ts', us', hts, hus, h'⟩ <;> simp only [hts, hus]
  · exact .some h
  · refine carries_read (Expression.eat_getD h' "*") (by simp) fun s t ts us hs h => ?_
    dsimp only
    rw [h.isAtAny]
    cases htarget : s.isTarget with
    | false => exact .none_left
    | true =>
        rw [hs.target htarget]
        split
        · exact .some h
        · exact .none_left

theorem managers_carries (closed : Bool) (hm : k ≤ m) (h : Exchanged Lines After n ts us) :
    Carries (Exchanged Lines After n) (managers closed k ts) (managers closed m us) := by
  induction k generalizing m ts us with
  | zero => exact .none_left
  | succ k ih =>
      obtain ⟨m, rfl⟩ : ∃ j, m = j + 1 := ⟨m - 1, by omega⟩
      unfold managers
      refine (manager_carries h).bind fun ts us h => ?_
      rcases h.eat "," with ⟨hts, hus⟩ | ⟨ts', us', hts, hus, h'⟩ <;> simp only [hts, hus]
      · exact .some h
      · rw [h'.isAt]
        split
        · exact .some h'
        · exact ih (by omega) h'

theorem closedManagers_carries (h : Exchanged Lines After n ts us) :
    Carries (Exchanged Lines After n) (closedManagers ts) (closedManagers us) := by
  unfold closedManagers
  refine (h.carries_eat "(").bind fun ts us h => ?_
  refine (managers_carries true h.lineLength_le h).bind fun ts us h => ?_
  exact (h.carries_eat ")").bind fun ts us h => h.carries_eat ":"

theorem subject_carries (h : Exchanged Lines After n ts us) :
    Carries After (subject ts) (subject us) := by
  have hend : ∀ {ts us : List Lexeme}, Exchanged Lines After n ts us →
      Carries After (eat ":" ts >>= fun ts => eatLayout .newline ts)
        (eat ":" us >>= fun us => eatLayout .newline us) :=
    fun h => (h.carries_eat ":").bind fun ts us h => carries_newline h
  unfold subject
  refine carries_read h (by simp) fun s t ts us hs h => ?_
  dsimp only
  rcases h.eat "," with ⟨hts, hus⟩ | ⟨ts', us', hts, hus, h'⟩ <;> simp only [hts, hus]
  · rw [hs.starred]
    split
    · exact .none_left
    · exact hend h
  · exact (skip_carries h' (by simp)).bind fun ts us h => hend h

end Heads

/-! ## Rules -/

/-- All goals carry over from one reader to another. Blocks begin inside of a line, the
others at the start of one. -/
structure Carried (Lines : Nat → Nat → Prop) (most : Nat) (read read' : Goal → Rule) : Prop where
  start : ∀ (g : Goal) {ts us : List Lexeme}, ExchangedLines Lines most ts us →
    Carries (ExchangedLines Lines most) (read g ts) (read' g us)
  block : ∀ {n : Nat} {ts us : List Lexeme}, Exchanged Lines (ExchangedLines Lines most) n ts us →
    Carries (ExchangedLines Lines most) (read .block ts) (read' .block us)

section Rules

variable {self self' : Goal → Rule}

theorem body_carries (ih : Carried Lines most self self')
    (h : Exchanged Lines (ExchangedLines Lines most) n ts us) :
    Carries (ExchangedLines Lines most) (body self ts) (body self' us) := by
  unfold body
  exact (h.carries_eat ":").bind fun ts us h => ih.block h

theorem otherwise_carries (ih : Carried Lines most self self')
    (h : ExchangedLines Lines most ts us) :
    Carries (ExchangedLines Lines most) (otherwise self ts) (otherwise self' us) := by
  obtain ⟨n, -, hn⟩ := h.inside
  unfold otherwise
  exact carries_choice hn "else" (fun ts us h => body_carries ih h) (.some h)

theorem finally_carries (ih : Carried Lines most self self') (h : ExchangedLines Lines most ts us) :
    Carries (ExchangedLines Lines most) (finally? self ts) (finally? self' us) := by
  obtain ⟨n, -, hn⟩ := h.inside
  unfold finally?
  exact carries_choice hn "finally" (fun ts us h => body_carries ih h) (.some h)

theorem branches_carries (ih : Carried Lines most self self')
    (h : ExchangedLines Lines most ts us) :
    Carries (ExchangedLines Lines most) (branches self ts) (branches self' us) := by
  obtain ⟨n, -, hn⟩ := h.inside
  unfold branches
  refine carries_choice hn "elif" (fun ts us h => ?_) (otherwise_carries ih h)
  refine (skip_carries h (by simp)).bind fun ts us h => ?_
  exact (body_carries ih h).bind fun ts us h => ih.start .branches h

theorem handlers_carries (ih : Carried Lines most self self') (star : Bool)
    (h : ExchangedLines Lines most ts us) :
    Carries (ExchangedLines Lines most) (handlers self star ts) (handlers self' star us) := by
  obtain ⟨n, -, hn⟩ := h.inside
  have hbody : ∀ {ts us : List Lexeme}, Exchanged Lines (ExchangedLines Lines most) n ts us →
      Carries (ExchangedLines Lines most)
        (body self ts >>= fun ts =>
          if isAt "except" ts then self (.handlers star) ts else some ts)
        (body self' us >>= fun us =>
          if isAt "except" us then self' (.handlers star) us else some us) := by
    intro ts us h
    refine (body_carries ih h).bind fun ts us h => ?_
    obtain ⟨k, -, hk⟩ := h.inside
    rw [hk.isAt]
    split
    · exact ih.start _ h
    · exact .some h
  unfold handlers
  refine (hn.carries_eat "except").bind fun ts us h => ?_
  have hname : ∀ {ts us : List Lexeme}, Exchanged Lines (ExchangedLines Lines most) n ts us →
      Carries (ExchangedLines Lines most) _ _ := fun h =>
    carries_choice h "as"
      (fun ts us h => (h.carries_eatName.map fun _ _ h => h.2).bind fun ts us h => hbody h) (hbody h)
  dsimp only
  rw [h.isAt]
  split
  · refine (h.carries_eat "*").bind fun ts us h => ?_
    exact (skip_carries h (by simp)).bind fun ts us h => hname h
  · split
    · exact hname h
    · exact (skip_carries h (by simp)).bind fun ts us h => hname h

theorem attempt_carries (ih : Carried Lines most self self')
    (h : Exchanged Lines (ExchangedLines Lines most) n ts us) :
    Carries (ExchangedLines Lines most) (attempt self ts) (attempt self' us) := by
  unfold attempt
  refine (body_carries ih h).bind fun ts us h => ?_
  obtain ⟨k, -, hk⟩ := h.inside
  refine carries_choice hk "except" (fun rest rest' hrest => ?_) ?_
  · rw [hrest.isAt]
    refine (ih.start _ h).bind fun ts us h => ?_
    exact (otherwise_carries ih h).bind fun ts us h => finally_carries ih h
  · rw [hk.isAt]
    split
    · exact finally_carries ih h
    · exact .none_left

theorem function_carries (ih : Carried Lines most self self')
    (h : Exchanged Lines (ExchangedLines Lines most) n ts us) :
    Carries (ExchangedLines Lines most) (function self ts) (function self' us) := by
  unfold function
  refine h.carries_eatName.bind_keeps fun s ts us h => ?_
  refine (h.carries_eat "(").bind fun ts us h => ?_
  refine (skip_carries h (by simp)).bind fun ts us h => ?_
  refine (h.carries_eat ")").bind fun ts us h => ?_
  dsimp only
  refine carries_choice h "->" (fun ts us h => ?_) (body_carries ih h)
  exact (skip_carries h (by simp)).bind fun ts us h => body_carries ih h

theorem classBody_carries (ih : Carried Lines most self self')
    (h : Exchanged Lines (ExchangedLines Lines most) n ts us) :
    Carries (ExchangedLines Lines most) (classBody self ts) (classBody self' us) := by
  unfold classBody
  refine h.carries_eatName.bind_keeps fun s ts us h => ?_
  dsimp only
  refine carries_choice h "(" (fun ts us h => ?_) (body_carries ih h)
  refine (skip_carries h (by simp)).bind fun ts us h => ?_
  exact (h.carries_eat ")").bind fun ts us h => body_carries ih h

theorem loop_carries (ih : Carried Lines most self self')
    (h : Exchanged Lines (ExchangedLines Lines most) n ts us) :
    Carries (ExchangedLines Lines most) (loop self ts) (loop self' us) := by
  unfold loop
  refine (skip_carries h (by simp)).bind fun ts us h => ?_
  refine (h.carries_eat "in").bind fun ts us h => ?_
  refine (skip_carries h (by simp)).bind fun ts us h => ?_
  exact (body_carries ih h).bind fun ts us h => otherwise_carries ih h

/-- Whether the managers stand between parentheses shows at their end. -/
theorem managed_carries (ih : Carried Lines most self self')
    (h : Exchanged Lines (ExchangedLines Lines most) n ts us)
    (hn : isAt "(" ts = true → n = 0) :
    Carries (ExchangedLines Lines most) (managed self ts) (managed self' us) := by
  have hopen : ∀ {ts : List Lexeme}, isAt "(" ts = false → closedManagers ts = none := by
    intro ts hts
    simp [closedManagers, Option.not_isSome_iff_eq_none.1 (by simpa [isAt] using hts)]
  have hclosed : (closedManagers ts = none ∧ closedManagers us = none) ∨
      ∃ ts' us', closedManagers ts = some ts' ∧ closedManagers us = some us' ∧
        Exchanged Lines (ExchangedLines Lines most) n ts' us' := by
    cases hts : isAt "(" ts with
    | false => exact .inl ⟨hopen hts, hopen (by rw [h.isAt, hts])⟩
    | true =>
        obtain rfl := hn hts
        exact (closedManagers_carries h).both (closedManagers_carries h.symm)
  unfold managed
  rcases hclosed with ⟨hts, hus⟩ | ⟨ts', us', hts, hus, h'⟩ <;> simp only [hts, hus]
  · exact (managers_carries false h.lineLength_le h).bind fun ts us h => body_carries ih h
  · exact ih.block h'

theorem decorated_eq (self : Goal → Rule) (k : Nat) (ts : List Lexeme) :
    decorated self (k + 1) ts =
      match eat "@" ts with
      | some ts => do decorated self k (← eatLayout .newline (← skip .named ts))
      | none =>
      match eat "class" ts with
      | some ts => classBody self ts
      | none =>
      match eat "async" ts with
      | some ts => do function self (← eat "def" ts)
      | none =>
      match eat "def" ts with
      | some ts => function self ts
      | none => none := by
  rw [decorated.eq_def self (k + 1)]
  dsimp only
  split
  · rfl
  · rfl
  · rfl
  · rfl
  · next h1 h2 h3 h4 =>
      rw [eat_eq_none h1, eat_eq_none h2, eat_eq_none h3, eat_eq_none h4]

theorem decorated_carries (ih : Carried Lines most self self') {k m : Nat} (hm : k ≤ m)
    (h : ExchangedLines Lines most ts us) :
    Carries (ExchangedLines Lines most) (decorated self k ts) (decorated self' m us) := by
  induction k generalizing m ts us with
  | zero => exact .none_left
  | succ k ihk =>
      obtain ⟨m, rfl⟩ : ∃ j, m = j + 1 := ⟨m - 1, by omega⟩
      obtain ⟨n, -, hn⟩ := h.inside
      rw [decorated_eq, decorated_eq]
      refine carries_choice hn "@" (fun ts us h => ?_) ?_
      · refine (skip_carries h (by simp)).bind fun ts us h => ?_
        exact (carries_newline h).bind fun ts us h => ihk (by omega) h
      refine carries_choice hn "class" (fun ts us h => classBody_carries ih h) ?_
      refine carries_choice hn "async" (fun ts us h => ?_) ?_
      · exact (h.carries_eat "def").bind fun ts us h => function_carries ih h
      exact carries_choice hn "def" (fun ts us h => function_carries ih h) .none_left

theorem compound_eq (self : Goal → Rule) (ts : List Lexeme) :
    compound self ts =
      match eat "if" ts with
      | some ts => do self .branches (← body self (← skip .named ts))
      | none =>
      match eat "while" ts with
      | some ts => do otherwise self (← body self (← skip .named ts))
      | none =>
      match eat "for" ts with
      | some ts => loop self ts
      | none =>
      match eat "with" ts with
      | some ts => managed self ts
      | none =>
      match eat "try" ts with
      | some ts => attempt self ts
      | none =>
      match (eat "async" ts).bind (eat "for") with
      | some ts => loop self ts
      | none =>
      match (eat "async" ts).bind (eat "with") with
      | some ts => managed self ts
      | none => decorated self ts.length ts := by
  unfold compound
  split
  · rfl
  · rfl
  · rfl
  · rfl
  · rfl
  · rfl
  · rfl
  · next h1 h2 h3 h4 h5 h6 h7 =>
      rw [eat_eq_none h1, eat_eq_none h2, eat_eq_none h3, eat_eq_none h4, eat_eq_none h5,
        eatTwo_eq_none h6, eatTwo_eq_none h7]

@[simp]
theorem isRigid_sign {s : String} {line : Nat} {ts : List Lexeme} :
    isRigid (⟨.sign s, line⟩ :: ts) =
      (s == "with" && isAt "(" ts || s == "async" && ((eat "with" ts).any (isAt "("))) := by
  rw [isRigid]

theorem compound_carries (ih : Carried Lines most self self')
    (h : ExchangedLines Lines most ts us) :
    Carries (ExchangedLines Lines most) (compound self ts) (compound self' us) := by
  obtain ⟨n, hle, hn, hrigid⟩ := exchangedLines_iff.1 h
  rw [compound_eq, compound_eq]
  refine carries_choice hn "if" (fun ts us h => ?_) ?_
  · refine (skip_carries h (by simp)).bind fun ts us h => ?_
    exact (body_carries ih h).bind fun ts us h => ih.start .branches h
  refine carries_choice hn "while" (fun ts us h => ?_) ?_
  · refine (skip_carries h (by simp)).bind fun ts us h => ?_
    exact (body_carries ih h).bind fun ts us h => otherwise_carries ih h
  refine carries_choice hn "for" (fun ts us h => loop_carries ih h) ?_
  rcases hn.eat "with" with ⟨hts, hus⟩ | ⟨ts', us', hts, hus, h'⟩ <;> simp only [hts, hus]
  · refine carries_choice hn "try" (fun ts us h => attempt_carries ih h) ?_
    rcases Expression.eatTwo hn "async" "for" with ⟨hts, hus⟩ | ⟨ts', us', hts, hus, h'⟩ <;>
      simp only [hts, hus]
    · rcases Expression.eatTwo hn "async" "with" with ⟨hts, hus⟩ | ⟨ts', us', hts, hus, h'⟩ <;>
        simp only [hts, hus]
      · exact decorated_carries ih h.length_le h
      · refine managed_carries ih h' fun hopen => hrigid ?_
        obtain ⟨mid, hasync, hwith⟩ := Option.bind_eq_some_iff.1 hts
        obtain ⟨line, rfl⟩ := eat_eq_some.1 hasync
        simp [hwith, hopen]
    · exact loop_carries ih h'
  · refine managed_carries ih h' fun hopen => hrigid ?_
    obtain ⟨line, rfl⟩ := eat_eq_some.1 hts
    simp [hopen]

@[simp]
theorem isRigid_name {s : String} {line : Nat} {ts : List Lexeme} :
    isRigid (⟨.name s, line⟩ :: ts) = (s == "match" || s == "case") := by
  rw [isRigid]

theorem cases_carries (ih : Carried Lines most self self') (h : ExchangedLines Lines most ts us) :
    Carries (ExchangedLines Lines most) (cases self ts) (cases self' us) := by
  have hbody : ∀ {n : Nat} {ts us : List Lexeme}, Exchanged Lines (ExchangedLines Lines most) n ts us →
      Carries (ExchangedLines Lines most)
        (body self ts >>= fun ts =>
          match eatLayout .dedent ts with
          | some ts => some ts
          | none => self .cases ts)
        (body self' us >>= fun us =>
          match eatLayout .dedent us with
          | some us => some us
          | none => self' .cases us) := by
    intro n ts us h
    refine (body_carries ih h).bind fun ts us h => ?_
    rcases eatLayout_margin h (.inr rfl) with ⟨hts, hus⟩ | ⟨ts', us', hts, hus, h'⟩ <;>
      simp only [hts, hus]
    · exact ih.start .cases h
    · exact .some h'
  have hname : Carries
      (fun a b => a.1 = b.1 ∧ (a.1 = "case" → Exchanged Lines (ExchangedLines Lines most) 0 a.2 b.2))
      (eatName ts) (eatName us) := by
    obtain ⟨n, hle, hn, hrigid⟩ := exchangedLines_iff.1 h
    rintro ⟨s, ts'⟩ hts
    obtain ⟨us', hus, h'⟩ := hn.eatName hts
    refine ⟨(s, us'), hus, rfl, ?_⟩
    rintro rfl
    obtain ⟨line, rfl⟩ := eatName_eq_some.1 hts
    exact hrigid (by simp) ▸ h'
  unfold cases
  refine hname.bind ?_
  rintro ⟨s, ts⟩ ⟨_, us⟩ ⟨rfl, hcase⟩
  dsimp only
  split
  · exact .none_left
  · next hs =>
      refine (CasePattern.read_carries (hcase (Decidable.not_not.1 hs))).bind fun ts us h => ?_
      refine carries_choice h "if" (fun ts us h => ?_) (hbody h)
      exact (skip_carries h (by simp)).bind fun ts us h => hbody h

theorem comparedCases_carries {After : List Lexeme → List Lexeme → Prop}
    (h : Exchanged Lines After n ts us) (hn : isRigid ts = true → n = 0) :
    (comparedCases? ts = none ∧ comparedCases? us = none) ∨
      ∃ ts' us', comparedCases? ts = some ts' ∧ comparedCases? us = some us' ∧ After ts' us' := by
  cases h with
  | nil _ => exact .inl ⟨rfl, rfl⟩
  | newline _ _ => exact .inl ⟨rfl, rfl⟩
  | swap _ _ _ => exact .inl ⟨rfl, by simp [referenceTokens, comparedCases?]⟩
  | @keep _ line line' t ts us _ _ _ hrest =>
      by_cases ht : t = .name "match"
      · subst ht
        obtain rfl : n = 0 := hn (by simp)
        exact (subject_carries hrest).both (subject_carries hrest.symm)
      · refine .inl ⟨?_, ?_⟩ <;>
        · unfold comparedCases?
          split
          · next heq =>
              simp only [List.cons.injEq, Lexeme.mk.injEq] at heq
              exact absurd heq.1.1 ht
          · rfl

/-- Statements of more than one line are alike if nothing gave way in them. -/
theorem alike_of_lines {rest rest' : List Lexeme} (h : ExchangedLines Lines most ts us)
    (hrest : ExchangedLines Lines most rest rest') (hmost : most = 0) :
    List.Forall₂ (Alike Lines) [ofTokens .other ts rest] [ofTokens .other us rest'] := by
  subst hmost
  have hown := exchangedLines_zero.1 h
  refine .cons (alike_ofTokens .other ?_) .nil
  rw [← hown.length_eq, ← (exchangedLines_zero.1 hrest).length_eq]
  exact List.forall₂_take _ hown

/-- What is read as statements is read as such after texts gave way, and if none did the
statements are alike. -/
theorem statements_carries (ih : Carried Lines most self self')
    (h : ExchangedLines Lines most ts us) :
    Carries (fun a b => (most = 0 → List.Forall₂ (Alike Lines) a.1 b.1) ∧
        ExchangedLines Lines most a.2 b.2)
      (statements self ts) (statements self' us) := by
  obtain ⟨n, hle, hn, hrigid⟩ := exchangedLines_iff.1 h
  unfold statements
  rw [hn.isAtAny]
  split
  · exact (compound_carries ih h).map fun _ _ hrest => ⟨alike_of_lines h hrest, hrest⟩
  · rcases comparedCases_carries hn hrigid with ⟨hts, hus⟩ | ⟨ts', us', hts, hus, h'⟩ <;>
      simp only [hts, hus]
    · intro a ha
      obtain ⟨b, hb, halike, hrest⟩ := line_carries hn.lineLength_le hn a ha
      exact ⟨b, hb, fun hmost => halike (by omega), hrest⟩
    · refine (carries_margin h' (.inl rfl)).bind fun _ _ hcases => ?_
      exact (ih.start .cases hcases).bind fun _ _ hrest =>
        .some ⟨alike_of_lines h hrest, hrest⟩

theorem block_carries (ih : Carried Lines most self self')
    (h : Exchanged Lines (ExchangedLines Lines most) n ts us) :
    Carries (ExchangedLines Lines most) (block self ts) (block self' us) := by
  unfold block
  rcases eatLayout_newline h with ⟨hts, hus⟩ | ⟨ts', us', hts, hus, h'⟩ <;> simp only [hts, hus]
  · exact (line_carries h.lineLength_le h).map fun _ _ h => h.2
  · exact (carries_margin h' (.inl rfl)).bind fun ts us h => ih.start .suite h

theorem suite_carries (ih : Carried Lines most self self') (h : ExchangedLines Lines most ts us) :
    Carries (ExchangedLines Lines most) (suite self ts) (suite self' us) := by
  unfold suite
  refine (ih.start .statement h).bind fun ts us h => ?_
  rcases eatLayout_margin h (.inr rfl) with ⟨hts, hus⟩ | ⟨ts', us', hts, hus, h'⟩ <;>
    simp only [hts, hus]
  · exact ih.start .suite h
  · exact .some h'

theorem rule_carries (ih : Carried Lines most self self') :
    Carried Lines most (rule self) (rule self') where
  block h := block_carries ih h
  start g ts us h := by
    cases g with
    | statement => exact (statements_carries ih h).map fun _ _ h => h.2
    | block => exact h.inside.elim fun n hn => block_carries ih hn.2
    | suite => exact suite_carries ih h
    | branches => exact branches_carries ih h
    | handlers star => exact handlers_carries ih star h
    | cases => exact cases_carries ih h

end Rules

theorem run_carries {k m : Nat} (hm : k ≤ m) : Carried Lines most (run k) (run m) := by
  induction k generalizing m with
  | zero => exact ⟨fun _ _ _ _ => .none_left, fun _ => .none_left⟩
  | succ k ih =>
      obtain ⟨m, rfl⟩ : ∃ j, m = j + 1 := ⟨m - 1, by omega⟩
      exact rule_carries (ih (by omega))

theorem readAll_cons {k : Nat} (hts : ts ≠ []) :
    readAll (k + 1) ts = (statements (run (4 * (ts.length + 1))) ts).bind fun a =>
      (readAll k a.2).map fun more => a.1 ++ more := by
  cases ts with
  | nil => exact (hts rfl).elim
  | cons t ts =>
      rw [readAll]
      · cases statements (run (4 * ((t :: ts).length + 1))) (t :: ts) with
        | none => rfl
        | some a =>
            simp only [Option.bind_eq_bind, Option.bind_some]
            cases readAll k a.2 <;> rfl
      · exact hts

/-- What is read as a script is read as one after texts gave way to references, and if none did
its statements are alike. -/
theorem readAll_carries {k m : Nat} (hm : k ≤ m) (h : ExchangedLines Lines most ts us) :
    Carries (fun a b => most = 0 → List.Forall₂ (Alike Lines) a b) (readAll k ts)
      (readAll m us) := by
  induction k generalizing m ts us with
  | zero =>
      rw [readAll]
      exact .none_left
  | succ k ih =>
      obtain ⟨m, rfl⟩ : ∃ j, m = j + 1 := ⟨m - 1, by omega⟩
      have hlen := h.length_le
      cases ts with
      | nil =>
          obtain ⟨n, -, hn⟩ := h.inside
          cases hn
          exact .some fun _ => .nil
      | cons t ts =>
          have hus : us ≠ [] := by
            rintro rfl
            simp at hlen
          rw [readAll_cons (by simp), readAll_cons hus]
          refine (statements_carries (run_carries (m := 4 * (us.length + 1)) (by omega)) h).bind ?_
          intro a b hab
          exact (ih (by omega) hab.2).map fun _ _ hmore hmost =>
            List.rel_append (hab.1 hmost) (hmore hmost)

end Statement

theorem read?_eq_some {s : List Char} {statements : List Statement} :
    read? s = some statements ↔ '\x00' ∉ s ∧ ∃ ts,
    tokens? (withLineFeeds s) = some ts ∧
    Statement.readAll (ts.length + 1) ts = some statements ∧
    areReadable (formattedLength ts + 1) ts = true := by
  unfold read?
  by_cases hnull : '\x00' ∈ s
  · simp [hnull]
  · simp only [hnull, not_false_eq_true, true_and, List.contains_iff_mem]
    simp only [Option.bind_eq_bind, if_false]
    constructor
    · intro h
      obtain ⟨ts, hts, h⟩ := Option.bind_eq_some_iff.1 h
      obtain ⟨statements', hread, h⟩ := Option.bind_eq_some_iff.1 h
      split at h
      · next hreadable =>
          obtain rfl := Option.some.inj h
          exact ⟨ts, hts, hread, hreadable⟩
      · cases h
    · rintro ⟨ts, hts, hread, hreadable⟩
      rw [hts, Option.bind_some, hread, Option.bind_some, if_pos hreadable]

end SecretScan.Script

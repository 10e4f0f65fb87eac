import SecretScan.Proofs.Script.Lexing
import SecretScan.Proofs.Script.Statements
import SecretScan.Script.Import

/-!
# Statements of the first lines

The description of a script and the imports that have to come first stand on lines of their own.
-/

namespace SecretScan.Script

namespace Statement

variable {Lines : Nat → Nat → Prop} {l A B W : List Lexeme} {line n : Nat}

/-- A line by itself is the same whatever stands behind it. -/
theorem exchanged_line (hl : ∀ t ∈ l, t.token ≠ .newline ∧ Lines t.line t.line)
    (hline : Lines line line) :
    Exchanged Lines (Behind A B) 0 (l ++ ⟨.newline, line⟩ :: A) (l ++ ⟨.newline, line⟩ :: B) := by
  induction l with
  | nil => exact .newline hline ⟨rfl, rfl⟩
  | cons t l ih =>
      obtain ⟨ht, hl⟩ := List.forall_mem_cons.1 hl
      have h := ih hl
      exact .keep ht.2 ht.1 (fun _ => h.atText_zero) h

/-- A statement of which something is remembered stands on a line with others. -/
theorem statements_line {self : Goal → Rule} {ts rest : List Lexeme} {g : List Statement}
    (h : statements self ts = some (g, rest)) (hkind : ∀ s, g.head? = some s → s.kind ≠ .other) :
    isAtAny compoundSigns ts = false ∧ comparedCases? ts = none ∧
      Statement.line (lineLength ts) ts = some (g, rest) := by
  unfold statements at h
  split at h
  · obtain ⟨rest, -, hg⟩ := Option.map_eq_some_iff.1 h
    obtain ⟨rfl, -⟩ := Prod.mk.inj hg
    exact absurd rfl (hkind _ rfl)
  · next hcompound =>
      split at h
      · obtain ⟨mid, -, h⟩ := Option.bind_eq_some_iff.1 h
        obtain ⟨rest, -, h⟩ := Option.bind_eq_some_iff.1 h
        obtain ⟨rfl, -⟩ := Prod.mk.inj (Option.some.inj h)
        exact absurd rfl (hkind _ rfl)
      · next hcases => exact ⟨Bool.not_eq_true _ ▸ hcompound, hcases, h⟩

theorem Alike.eq_of_le {s t : Statement} (h : Alike (fun a b => a = b ∧ a ≤ line) s t) :
    s.lastLine ≤ line ∧ s = t := by
  obtain ⟨kind, tokens, a⟩ := s
  obtain ⟨kind', tokens', b⟩ := t
  obtain ⟨hcontent, hlines⟩ := h
  obtain ⟨rfl, rfl⟩ : kind = kind' ∧ tokens = tokens' := Prod.mk.inj hcontent
  rcases hlines with ⟨rfl, hle⟩ | ⟨rfl, rfl⟩
  · exact ⟨hle, rfl⟩
  · exact ⟨Nat.zero_le line, rfl⟩

/-- The statements of a line are the same whatever stands behind it, and end on it. -/
theorem statements_firstLine {self : Goal → Rule} {rest : List Lexeme} {g : List Statement}
    (hl : ∀ t ∈ l, t.token ≠ .newline ∧ t.line ≤ line)
    (h : statements self (l ++ ⟨.newline, line⟩ :: A) = some (g, rest))
    (hkind : ∀ s, g.head? = some s → s.kind ≠ .other) :
    rest = A ∧ (∀ s ∈ g, s.lastLine ≤ line) ∧
      ∀ self B, statements self (l ++ ⟨.newline, line⟩ :: B) = some (g, B) := by
  obtain ⟨hcompound, hcases, hg⟩ := statements_line h hkind
  have hsame : ∀ B, Exchanged (fun a b => a = b ∧ a ≤ line) (Behind A B) 0
      (l ++ ⟨.newline, line⟩ :: A) (l ++ ⟨.newline, line⟩ :: B) := fun B =>
    exchanged_line (fun t ht => ⟨(hl t ht).1, rfl, (hl t ht).2⟩) ⟨rfl, Nat.le_refl line⟩
  have hline : ∀ B, rest = A ∧ (∀ s ∈ g, s.lastLine ≤ line) ∧
      Statement.line (lineLength (l ++ ⟨.newline, line⟩ :: B)) (l ++ ⟨.newline, line⟩ :: B) =
        some (g, B) := by
    intro B
    obtain ⟨⟨g', _⟩, hg', halike, hrest, rfl⟩ := line_behind (hsame B).lineLength_le (hsame B) _ hg
    obtain ⟨hle, heq⟩ := (List.forall₂_and_left _ _).1
      ((halike rfl).imp fun _ _ hst => hst.eq_of_le)
    rw [List.forall₂_eq_eq_eq] at heq
    obtain rfl : g = g' := heq
    exact ⟨hrest, hle, hg'⟩
  refine ⟨(hline A).1, (hline A).2.1, fun self B => ?_⟩
  have hsign := (hsame B).isAtAny compoundSigns
  rw [hcompound] at hsign
  rw [statements, hsign, if_neg Bool.false_ne_true]
  rcases comparedCases_carries (hsame B) (fun _ => rfl) with ⟨-, hnone⟩ | ⟨_, _, hsome, -⟩
  · rw [hnone]
    exact (hline B).2.2
  · rw [hcases] at hsome
    cases hsome

/-! ## Statements that lead -/

/-- The first ones of some statements are texts or imports, and the last of these ends on a
line. -/
def Lead (n : Nat) (statements : List Statement) : Prop :=
  ∃ front s back, statements = front ++ s :: back ∧
    (∀ t ∈ front ++ [s], t.kind ≠ .other) ∧ s.lastLine = n

theorem Lead.append {g more : List Statement} (h : Lead n (g ++ more)) :
    (∀ s, g.head? = some s → s.kind ≠ .other) ∧ (Lead n more ∨ ∃ s ∈ g, s.lastLine = n) := by
  obtain ⟨front, s, back, heq, hkind, hn⟩ := h
  rcases List.append_eq_append_iff.1 heq with ⟨a, rfl, rfl⟩ | ⟨c, rfl, hmore⟩
  · refine ⟨fun t ht => hkind t ?_, .inl ⟨a, s, back, rfl, fun t ht => hkind t ?_, hn⟩⟩
    · simp [List.mem_of_head? ht]
    · rw [List.append_assoc]
      exact List.mem_append_right _ ht
  · cases c with
    | nil =>
        obtain rfl : s :: back = more := hmore
        refine ⟨fun t ht => hkind t ?_, .inl ⟨[], s, back, rfl, fun t ht => hkind t ?_, hn⟩⟩
        · rw [List.append_nil] at ht
          exact List.mem_append_left _ (List.mem_of_head? ht)
        · exact List.mem_append_right _ ht
    | cons d c =>
        obtain ⟨rfl, rfl⟩ := List.cons.inj hmore
        refine ⟨fun t ht => hkind t ?_, .inr ⟨s, by simp, hn⟩⟩
        cases front with
        | nil => 
            cases ht
            exact List.mem_cons_self
        | cons e front =>
            cases ht
            exact List.mem_cons_self

end Statement

theorem Statement.comesFirst_kind {s : Statement} (h : s.comesFirst = true) : s.kind ≠ .other := by
  have hkind : s.kind = .importsFrom [firstModule] := of_decide_eq_true h
  rw [hkind]
  simp

/-- The statements before an import lead, and the last one ends on the last of their lines. -/
theorem lead_leadingLines {statements : List Statement} (h : leadingLines statements ≠ 0) :
    Statement.Lead (leadingLines statements) statements := by
  cases statements with
  | nil => exact absurd rfl h
  | cons first rest =>
      rw [leadingLines] at h ⊢
      split at h
      · next hfirst =>
          rw [if_pos hfirst]
          have hkind : first.kind ≠ .other := by
            rcases Bool.or_eq_true_iff.1 hfirst with htext | hfirst
            · rw [of_decide_eq_true htext]
              simp
            · exact Statement.comesFirst_kind hfirst
          rcases List.eq_nil_or_concat (rest.takeWhile (·.comesFirst)) with hnil | ⟨init, l, hl⟩
          · exact ⟨[], first, rest, rfl, by simpa using hkind, by rw [hnil]; rfl⟩
          · rw [List.concat_eq_append] at hl
            refine ⟨first :: init, l, rest.dropWhile (·.comesFirst), ?_, ?_, ?_⟩
            · have hrest := List.takeWhile_append_dropWhile (p := Statement.comesFirst) (l := rest)
              rw [hl] at hrest
              simpa using hrest.symm
            · intro t ht
              rcases List.mem_cons.1 ht with rfl | ht
              · exact hkind
              · have ht : t ∈ rest.takeWhile (·.comesFirst) := hl ▸ ht
                exact Statement.comesFirst_kind (List.all_eq_true.1 List.all_takeWhile t ht)
            · rw [hl, List.getLast?_concat]
              rfl
      · exact absurd rfl h

namespace Statement

/-- Whole lines of tokens begin with a line. -/
theorem exists_firstLine (hA : AreWhole A) (hne : A ≠ []) :
    ∃ l line A', A = l ++ ⟨.newline, line⟩ :: A' ∧ ∀ t ∈ l, t.token ≠ .newline := by
  induction A with
  | nil => exact absurd rfl hne
  | cons t A ih =>
      obtain ⟨token, line⟩ := t
      by_cases ht : token = .newline
      · subst ht
        exact ⟨[], line, A, rfl, by simp⟩
      · have hA' : A ≠ [] := by
          rintro rfl
          exact ht (hA _ rfl)
        obtain ⟨l, line', A', rfl, hl⟩ := ih (hA.suffix (List.suffix_cons _ _)) hA'
        exact ⟨⟨token, line⟩ :: l, line', A', rfl, List.forall_mem_cons.2 ⟨ht, hl⟩⟩

/-- Whole lines in which only leading statements begin are read before all others, whatever stands
behind them. -/
theorem readAll_front {k : Nat} {stmts : List Statement} (hA : AreWhole A)
    (hsorted : A.Pairwise fun t u => t.EndsBy u.line) (hle : ∀ t ∈ A, t.line ≤ n)
    (h : readAll k (A ++ W) = some stmts) (hlead : A ≠ [] → Lead n stmts) :
    ∃ front back i j, k = i + j ∧ stmts = front ++ back ∧ readAll i W = some back ∧
      ∀ m B, readAll (m + j) (A ++ B) = (readAll m B).map (front ++ ·) := by
  induction k generalizing A stmts with
  | zero =>
      rw [readAll] at h
      cases h
  | succ k ih =>
      by_cases hne : A = []
      · subst hne
        exact ⟨[], stmts, k + 1, 0, rfl, rfl, h, by simp⟩
      obtain ⟨l, line, A', rfl, hl⟩ := exists_firstLine hA hne
      have hlead := hlead hne
      rw [List.append_assoc, List.cons_append, readAll_cons (by simp)] at h
      obtain ⟨⟨g, rest⟩, hg, h⟩ := Option.bind_eq_some_iff.1 h
      obtain ⟨more, hmore, rfl⟩ := Option.map_eq_some_iff.1 h
      obtain ⟨-, hafter, hbefore⟩ := List.pairwise_append.1 hsorted
      obtain ⟨hafter, hsorted⟩ := List.pairwise_cons.1 hafter
      obtain ⟨rfl, hlast, hsame⟩ := statements_firstLine
        (fun t ht => ⟨hl t ht, (hbefore t ht _ List.mem_cons_self).1⟩) hg hlead.append.1
      have hA' : AreWhole A' := hA.suffix ⟨l ++ [⟨.newline, line⟩], by simp⟩
      have hle' : ∀ t ∈ A', t.line ≤ n := fun t ht => hle t (by simp [ht])
      have hlead' : A' ≠ [] → Lead n more := by
        intro hne'
        refine hlead.append.2.resolve_right ?_
        rintro ⟨s, hs, rfl⟩
        obtain ⟨t, A', rfl⟩ := List.exists_cons_of_ne_nil hne'
        have hlt := (hafter t List.mem_cons_self).2 rfl
        exact absurd (hlt.trans_le (hle' t List.mem_cons_self)) (Nat.not_lt.2 (hlast s hs))
      obtain ⟨front, back, i, j, rfl, rfl, hback, hfront⟩ := ih hA' hsorted hle' hmore hlead'
      refine ⟨g ++ front, back, i, j + 1, rfl, (List.append_assoc _ _ _).symm, hback,
        fun m B => ?_⟩
      rw [List.append_assoc, List.cons_append, ← Nat.add_assoc, readAll_cons (by simp), hsame,
        Option.bind_some, hfront, Option.map_map]
      simp [Function.comp_def]

end Statement

/-! ## Margins of the first lines -/

/-- A token that a margin makes. -/
def Token.IsMark (t : Token) : Prop := t = .indent ∨ t = .dedent

section

variable {t : Token} {line : Nat} {ts : List Lexeme}

theorem eat_mark (ht : t.IsMark) (s : String) : eat s (⟨t, line⟩ :: ts) = none := by
  rcases ht with rfl | rfl <;> rfl

theorem isAtAny_mark (ht : t.IsMark) (signs : List String) :
    isAtAny signs (⟨t, line⟩ :: ts) = false := by
  rcases ht with rfl | rfl <;> rfl

/-- The rules that begin with the first token of an expression. -/
def Expression.leadingGoals : List Expression.Goal :=
  [.stars, .star, .expression, .disjunction, .comparison, .operands, .primary, .atom]

/-- No expression begins with a mark. -/
theorem Expression.run_mark (ht : t.IsMark) (k : Nat) : ∀ g ∈ leadingGoals,
    run k g (⟨t, line⟩ :: ts) = none := by
  induction k with
  | zero => exact fun _ _ => rfl
  | succ k ih =>
      simp only [leadingGoals, List.forall_mem_cons, List.not_mem_nil, false_implies, implies_true,
        and_true] at ih ⊢
      obtain ⟨-, hstar, hexpression, hdisjunction, hcomparison, hoperands, hprimary, hatom⟩ := ih
      have hatom' : run (k + 1) .atom (⟨t, line⟩ :: ts) = none := by
        rcases ht with rfl | rfl <;> rfl
      simp only [run, rule, stars, orStarred, expression, disjunction, comparison, operands, primary,
        eat_mark ht, isAtAny_mark ht, hstar, hexpression, hdisjunction, hcomparison, hoperands,
        hprimary, hatom, Option.bind_eq_bind, Option.bind_none, Bool.false_eq_true, if_false, true_and]
      exact hatom'

/-- No statement begins with a mark. -/
theorem Statement.readAll_mark (ht : t.IsMark) (k : Nat) :
    Statement.readAll k (⟨t, line⟩ :: ts) = none := by
  have hsimple : Statement.simple (⟨t, line⟩ :: ts) = none := by
    have hread : Expression.read .stars (⟨t, line⟩ :: ts) = none :=
      Expression.run_mark ht _ _ (by simp [Expression.leadingGoals])
    rw [Statement.simple_eq]
    simp only [eat_mark ht]
    rw [Statement.expressionOrAssignment, hread]
    rfl
  have hline : ∀ k, Statement.line k (⟨t, line⟩ :: ts) = none := by
    intro k
    cases k with
    | zero => rfl
    | succ k =>
        rw [Statement.line, hsimple]
        rfl
  have hcases : Statement.comparedCases? (⟨t, line⟩ :: ts) = none := by
    rcases ht with rfl | rfl <;> rfl
  cases k with
  | zero => rfl
  | succ k =>
      rw [Statement.readAll_cons (List.cons_ne_nil _ _), Statement.statements, isAtAny_mark ht,
        if_neg Bool.false_ne_true, hcases]
      dsimp only
      rw [hline]
      rfl

end

section

variable {r r' : Reader} {m n k : Nat} {us A W : List Lexeme}

/-- Where no line begins with a mark the margins stay as they are. -/
theorem Steps.margins_eq (h : Steps m r us r') (hA : r.atStart = true → AreWhole A)
    (hlines : ∀ l t rest, A ++ us = l ++ t :: rest → AreWhole l → ¬t.token.IsMark) :
    r'.margins = r.margins := by
  induction h generalizing A with
  | refl r => rfl
  | @more m r r' r'' ts us hstep _ ih =>
      have hmargins : r'.margins = r.margins := by
        cases hstep with
        | @margin margins margins' p q m marks _ _ _ hsettle =>
            cases marks with
            | nil => exact Margin.settle_nil hsettle
            | cons mark marks =>
                refine absurd (Margin.settle_marks hsettle mark List.mem_cons_self) ?_
                exact hlines A ⟨mark, q.line⟩ (marks.map (⟨·, q.line⟩) ++ us) rfl (hA rfl)
        | _ => rfl
      refine (ih (A := A ++ ts) (fun hstart => ?_) ?_).trans hmargins
      · obtain ⟨hwhole, hnil⟩ := hstep.areWhole hstart
        cases ts with
        | nil => simpa using hA (hnil rfl)
        | cons t ts => exact hwhole.append_left A (List.cons_ne_nil t ts)
      · rwa [List.append_assoc]

/-- Whole lines in which only leading statements begin have no margins. -/
theorem Statement.no_marks {stmts : List Statement}
    (hsorted : A.Pairwise fun t u => t.EndsBy u.line) (hle : ∀ t ∈ A, t.line ≤ n)
    (h : readAll k (A ++ W) = some stmts) (hlead : A ≠ [] → Lead n stmts) :
    ∀ l t rest, A = l ++ t :: rest → AreWhole l → ¬t.token.IsMark := by
  rintro l ⟨t, line⟩ rest rfl hl ht
  rw [List.append_assoc, List.cons_append] at h
  obtain ⟨front, back, i, j, -, -, hback, -⟩ := readAll_front hl (List.pairwise_append.1 hsorted).1
    (fun t ht => hle t (List.mem_append_left _ ht)) h (fun _ => hlead (by simp))
  rw [readAll_mark ht] at hback
  cases hback

end

end SecretScan.Script

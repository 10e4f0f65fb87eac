import SecretScan.Proofs.Script.Expressions
import SecretScan.Script.Statement

/-!
# Lines in which texts gave way to references

What is read as the simple statements of a line is read as such after texts in it gave way,
and both readers come to the end of the same line.
-/

namespace SecretScan.Script

variable {Lines : Nat → Nat → Prop} {After : List Lexeme → List Lexeme → Prop}
  {n : Nat} {ts us : List Lexeme}

theorem Exchanged.lineLength_le (h : Exchanged Lines After n ts us) :
    Script.lineLength ts ≤ Script.lineLength us := by
  obtain ⟨k, -, -, hlen⟩ := h.lineLength
  omega

namespace Statement

theorem eatLayout_newline (h : Exchanged Lines After n ts us) :
    (eatLayout .newline ts = none ∧ eatLayout .newline us = none) ∨
      ∃ ts' us', eatLayout .newline ts = some ts' ∧ eatLayout .newline us = some us' ∧
        After ts' us' := by
  cases h with
  | nil _ => exact .inl ⟨rfl, rfl⟩
  | newline _ hafter => exact .inr ⟨_, _, rfl, rfl, hafter⟩
  | keep _ ht _ _ => exact .inl ⟨if_neg ht, if_neg ht⟩
  | swap _ _ _ => exact .inl ⟨rfl, rfl⟩

theorem carries_newline (h : Exchanged Lines After n ts us) :
    Carries After (eatLayout .newline ts) (eatLayout .newline us) := by
  rcases eatLayout_newline h with ⟨hts, -⟩ | ⟨ts', us', hts, hus, hafter⟩
  · rw [hts]
    exact .none_left
  · rw [hts, hus]
    exact .some hafter

theorem skip_carries (h : Exchanged Lines After n ts us) {g : Expression.Goal} (hg : g ≠ .atom) :
    Carries (Exchanged Lines After n) (skip g ts) (skip g us) :=
  (Expression.read_carries h hg).map fun _ _ h => h.2

theorem carries_read (h : Exchanged Lines After n ts us) {g : Expression.Goal} (hg : g ≠ .atom)
    {α β : Type} {P : α → β → Prop} {f : Shape × List Lexeme → Option α}
    {f' : Shape × List Lexeme → Option β}
    (hf : ∀ s t ts us, s.Loosens t → Exchanged Lines After n ts us →
      Carries P (f (s, ts)) (f' (t, us))) :
    Carries P (Expression.read g ts >>= f) (Expression.read g us >>= f') :=
  (Expression.read_carries h hg).bind fun a b hab => hf a.1 b.1 a.2 b.2 hab.1 hab.2

/-! ## Imports -/

theorem morePath_eq (ts : List Lexeme) :
    morePath ts =
      match (eat "." ts).bind eatName with
      | some (s, ts) => (plainName s :: (morePath ts).1, (morePath ts).2)
      | none => ([], ts) := by
  rw [morePath.eq_def]
  split
  · rfl
  · next hpart => rw [eatPart_eq_none hpart]

theorem morePath_exchanged (h : Exchanged Lines After n ts us) :
    (morePath us).1 = (morePath ts).1 ∧
      Exchanged Lines After n (morePath ts).2 (morePath us).2 := by
  induction hlen : ts.length using Nat.strongRecOn generalizing ts us with
  | ind len ih =>
      rw [morePath_eq ts, morePath_eq us]
      rcases h.eatPart with ⟨hts, hus⟩ | ⟨u, ts', us', hts, hus, h'⟩ <;> simp only [hts, hus]
      · exact ⟨trivial, h⟩
      · obtain ⟨line, line', rfl⟩ := eatPart_eq_some hts
        obtain ⟨heq, hrest⟩ := ih ts'.length (by simp only [← hlen, List.length_cons]; omega) h' rfl
        exact ⟨by rw [heq], hrest⟩

theorem path_carries (h : Exchanged Lines After n ts us) :
    Carries (Keeps Lines After n) (path ts) (path us) := by
  unfold path
  refine h.carries_eatName.bind_keeps fun s ts us h => ?_
  obtain ⟨heq, hrest⟩ := morePath_exchanged h
  exact .some ⟨by simp only [heq], hrest⟩

theorem alternative_carries (h : Exchanged Lines After n ts us) :
    Carries (Keeps Lines After n) (alternative ts) (alternative us) := by
  unfold alternative
  rcases h.eat "as" with ⟨hts, hus⟩ | ⟨ts', us', hts, hus, h'⟩ <;> simp only [hts, hus]
  · exact .some ⟨rfl, h⟩
  · exact h'.carries_eatName.map fun _ _ hab => ⟨by rw [hab.1], hab.2⟩

theorem modules_carries {k m : Nat} (hm : k ≤ m) (h : Exchanged Lines After n ts us) :
    Carries (Keeps Lines After n) (modules k ts) (modules m us) := by
  induction k generalizing m ts us with
  | zero => exact .none_left
  | succ k ih =>
      obtain ⟨m, rfl⟩ : ∃ j, m = j + 1 := ⟨m - 1, by omega⟩
      unfold modules
      refine (path_carries h).bind_keeps fun p ts us h => ?_
      refine (alternative_carries h).bind_keeps fun a ts us h => ?_
      dsimp only
      rcases h.eat "," with ⟨hts, hus⟩ | ⟨ts', us', hts, hus, h'⟩ <;> simp only [hts, hus]
      · exact .some ⟨rfl, h⟩
      · exact (ih (by omega) h').bind_keeps fun _ _ _ h => .some ⟨rfl, h⟩

theorem importedNames_carries (closed : Bool) {k m : Nat} (hm : k ≤ m)
    (h : Exchanged Lines After n ts us) :
    Carries (Exchanged Lines After n) (importedNames closed k ts) (importedNames closed m us) := by
  induction k generalizing m ts us with
  | zero => exact .none_left
  | succ k ih =>
      obtain ⟨m, rfl⟩ : ∃ j, m = j + 1 := ⟨m - 1, by omega⟩
      unfold importedNames
      refine h.carries_eatName.bind_keeps fun p ts us h => ?_
      refine (alternative_carries h).bind_keeps fun a ts us h => ?_
      dsimp only
      rcases h.eat "," with ⟨hts, hus⟩ | ⟨ts', us', hts, hus, h'⟩ <;> simp only [hts, hus]
      · exact .some h
      · rw [h'.isAt]
        split
        · exact .some h'
        · exact ih (by omega) h'

theorem imported_carries (h : Exchanged Lines After n ts us) :
    Carries (Exchanged Lines After n) (imported ts) (imported us) := by
  unfold imported
  rcases h.eat "*" with ⟨hts, hus⟩ | ⟨ts', us', hts, hus, h'⟩ <;> simp only [hts, hus]
  · rcases h.eat "(" with ⟨hts, hus⟩ | ⟨ts', us', hts, hus, h'⟩ <;> simp only [hts, hus]
    · exact importedNames_carries false h.lineLength_le h
    · exact (importedNames_carries true h'.lineLength_le h').bind fun ts us h => h.carries_eat ")"
  · exact .some h'

theorem dots_eq (ts : List Lexeme) :
    dots ts =
      match (eat "." ts).or (eat "..." ts) with
      | some ts => dots ts
      | none => ts := by
  rw [dots.eq_def]
  split
  · rfl
  · rfl
  · next hone hthree =>
      rw [eat_eq_none hone, eat_eq_none hthree]
      rfl

theorem dots_length_le (ts : List Lexeme) : (dots ts).length ≤ ts.length := by
  fun_induction dots ts with
  | case1 line ts ih => exact Nat.le_succ_of_le ih
  | case2 line ts ih => exact Nat.le_succ_of_le ih
  | case3 ts _ _ => exact Nat.le_refl _

/-- Points come next on both sides or on none. -/
theorem dots_exchanged (h : Exchanged Lines After n ts us) :
    Exchanged Lines After n (dots ts) (dots us) ∧
      ((dots us).length < us.length ↔ (dots ts).length < ts.length) := by
  induction hlen : ts.length using Nat.strongRecOn generalizing ts us with
  | ind len ih =>
      subst hlen
      have hstep : ∀ {s : String} {ts' us' : List Lexeme}, eat s ts = some ts' →
          eat s us = some us' → Exchanged Lines After n ts' us' →
          Exchanged Lines After n (dots ts') (dots us') ∧
            ((dots us').length < us.length ↔ (dots ts').length < ts.length) := by
        intro s ts' us' hts hus h'
        have hle := dots_length_le ts'
        have hle' := dots_length_le us'
        obtain ⟨line, rfl⟩ := eat_eq_some.1 hts
        obtain ⟨line', rfl⟩ := eat_eq_some.1 hus
        refine ⟨(ih ts'.length (by simp) h' rfl).1, ?_⟩
        simp only [List.length_cons]
        omega
      rw [dots_eq ts, dots_eq us]
      rcases h.eat "." with ⟨hts, hus⟩ | ⟨ts', us', hts, hus, h'⟩ <;>
        simp only [hts, hus, Option.none_or, Option.some_or]
      · rcases h.eat "..." with ⟨hts, hus⟩ | ⟨ts', us', hts, hus, h'⟩ <;> simp only [hts, hus]
        · exact ⟨h, by simp⟩
        · exact hstep hts hus h'
      · exact hstep hts hus h'

/-- A statement is of the same kind as another one, or not a plain text any more. -/
inductive KindLoosens : StatementKind → StatementKind → Prop
  | same (kind : StatementKind) : KindLoosens kind kind
  | text : KindLoosens .text .other

/-- Two readers come to the same place with statements of the same kind, but the second one
perhaps with none that is a plain text. -/
def Meets (Lines : Nat → Nat → Prop)
    (After : List Lexeme → List Lexeme → Prop) (n : Nat)
    (a b : StatementKind × List Lexeme) : Prop :=
  KindLoosens a.1 b.1 ∧ Exchanged Lines After n a.2 b.2

theorem importFrom_carries (h : Exchanged Lines After n ts us) :
    Carries (Meets Lines After n) (importFrom ts) (importFrom us) := by
  obtain ⟨hdots, hlt⟩ := dots_exchanged h
  have hrest : ∀ names rest rest', Exchanged Lines After n rest rest' →
      Carries (Meets Lines After n)
        (eat "import" rest >>= fun ts => imported ts >>= fun ts =>
          some (StatementKind.importsFrom names, ts))
        (eat "import" rest' >>= fun ts => imported ts >>= fun ts =>
          some (StatementKind.importsFrom names, ts)) := by
    intro names rest rest' h
    refine (h.carries_eat "import").bind fun ts us h => ?_
    exact (imported_carries h).bind fun ts us h => .some ⟨.same _, h⟩
  have hdecide : decide ((dots us).length < us.length) = decide ((dots ts).length < ts.length) :=
    decide_eq_decide.2 hlt
  unfold importFrom
  dsimp only
  rw [hdots.isAt, hdecide]
  split
  · exact hrest [] _ _ hdots
  · exact (path_carries hdots).bind_keeps fun names rest rest' h => hrest names rest rest' h

/-! ## Simple statements -/

theorem value_carries (h : Exchanged Lines After n ts us) :
    Carries (Exchanged Lines After n) (value ts) (value us) := by
  unfold value
  rw [h.isAt]
  exact skip_carries h (by split <;> simp)

theorem values_carries {k m : Nat} (hm : k ≤ m) (h : Exchanged Lines After n ts us) :
    Carries (Exchanged Lines After n) (values k ts) (values m us) := by
  induction k generalizing m ts us with
  | zero => exact .none_left
  | succ k ih =>
      obtain ⟨m, rfl⟩ : ∃ j, m = j + 1 := ⟨m - 1, by omega⟩
      unfold values
      rw [h.isAt]
      split
      · exact skip_carries h (by simp)
      · refine carries_read h (by simp) fun s t ts us hs h => ?_
        rcases h.eat "=" with ⟨hts, hus⟩ | ⟨ts', us', hts, hus, h'⟩ <;> simp only [hts, hus]
        · exact .some h
        · cases hassign : s.isAssignable with
          | false => exact .none_left
          | true =>
              rw [hs.assignable hassign]
              exact ih (by omega) h'

theorem expressionOrAssignment_carries (h : Exchanged Lines After n ts us) :
    Carries (Meets Lines After n) (expressionOrAssignment ts) (expressionOrAssignment us) := by
  unfold expressionOrAssignment
  refine carries_read h (by simp) fun s t ts us hs h => ?_
  dsimp only
  rcases h.eat ":" with ⟨hts, hus⟩ | ⟨ts', us', hts, hus, h'⟩ <;> simp only [hts, hus]
  · rcases h.eat "=" with ⟨hts, hus⟩ | ⟨ts', us', hts, hus, h'⟩ <;> simp only [hts, hus]
    · rw [h.isAtAny]
      split
      · next hsign =>
          cases hsingle : s.isSingleTarget with
          | false => exact .none_left
          | true =>
              rw [hs.single hsingle]
              exact (value_carries (h.drop_one hsign)).bind fun ts us h => .some ⟨.same _, h⟩
      · refine .some ⟨?_, h⟩
        cases htext : t.isText with
        | true => rw [hs.plain htext]; exact .same _
        | false => cases s.isText <;> constructor
    · cases hassign : s.isAssignable with
      | false => exact .none_left
      | true =>
          rw [hs.assignable hassign]
          exact (values_carries h'.lineLength_le h').bind fun ts us h => .some ⟨.same _, h⟩
  · cases hsingle : s.isSingleTarget with
    | false => exact .none_left
    | true =>
        rw [hs.single hsingle]
        refine (skip_carries h' (by simp)).bind fun ts us h => ?_
        rcases h.eat "=" with ⟨hts, hus⟩ | ⟨ts', us', hts, hus, h'⟩ <;> simp only [hts, hus]
        · exact .some ⟨.same _, h⟩
        · exact (value_carries h').bind fun ts us h => .some ⟨.same _, h⟩

theorem names_carries {k m : Nat} (hm : k ≤ m) (h : Exchanged Lines After n ts us) :
    Carries (Exchanged Lines After n) (names k ts) (names m us) := by
  induction k generalizing m ts us with
  | zero => exact .none_left
  | succ k ih =>
      obtain ⟨m, rfl⟩ : ∃ j, m = j + 1 := ⟨m - 1, by omega⟩
      unfold names
      refine h.carries_eatName.bind_keeps fun p ts us h => ?_
      dsimp only
      rcases h.eat "," with ⟨hts, hus⟩ | ⟨ts', us', hts, hus, h'⟩ <;> simp only [hts, hus]
      · exact .some h
      · exact ih (by omega) h'

theorem deleted_carries {k m : Nat} (hm : k ≤ m) (h : Exchanged Lines After n ts us) :
    Carries (Exchanged Lines After n) (deleted k ts) (deleted m us) := by
  induction k generalizing m ts us with
  | zero => exact .none_left
  | succ k ih =>
      obtain ⟨m, rfl⟩ : ∃ j, m = j + 1 := ⟨m - 1, by omega⟩
      unfold deleted
      refine carries_read h (by simp) fun s t ts us hs h => ?_
      dsimp only
      cases hdelete : s.isDeletable with
      | false => exact .none_left
      | true =>
          rw [hs.deletable hdelete]
          rcases h.eat "," with ⟨hts, hus⟩ | ⟨ts', us', hts, hus, h'⟩ <;> simp only [hts, hus]
          · exact .some h
          · rw [h'.canStart]
            cases Expression.canStart ts' with
            | false => exact .some h'
            | true => exact ih (by omega) h'

theorem raised_carries (h : Exchanged Lines After n ts us) :
    Carries (Exchanged Lines After n) (raised ts) (raised us) := by
  unfold raised
  rw [h.canStart]
  split
  · exact .some h
  · refine (skip_carries h (by simp)).bind fun ts us h => ?_
    rcases h.eat "from" with ⟨hts, hus⟩ | ⟨ts', us', hts, hus, h'⟩ <;> simp only [hts, hus]
    · exact .some h
    · exact skip_carries h' (by simp)

theorem asserted_carries (h : Exchanged Lines After n ts us) :
    Carries (Exchanged Lines After n) (asserted ts) (asserted us) := by
  unfold asserted
  refine (skip_carries h (by simp)).bind fun ts us h => ?_
  rcases h.eat "," with ⟨hts, hus⟩ | ⟨ts', us', hts, hus, h'⟩ <;> simp only [hts, hus]
  · exact .some h
  · exact skip_carries h' (by simp)

theorem simple_eq (ts : List Lexeme) :
    simple ts =
      let other := fun (rest : Option (List Lexeme)) => rest.map fun rest => (StatementKind.other, rest)
      match eat "return" ts with
      | some ts => other (if Expression.canStart ts || isAt "*" ts then skip .stars ts else some ts)
      | none =>
      match eat "raise" ts with
      | some ts => other (raised ts)
      | none =>
      match eat "pass" ts with
      | some ts => other (some ts)
      | none =>
      match eat "break" ts with
      | some ts => other (some ts)
      | none =>
      match eat "continue" ts with
      | some ts => other (some ts)
      | none =>
      match eat "del" ts with
      | some ts => other (deleted (lineLength ts) ts)
      | none =>
      match eat "assert" ts with
      | some ts => other (asserted ts)
      | none =>
      match eat "global" ts with
      | some ts => other (names (lineLength ts) ts)
      | none =>
      match eat "nonlocal" ts with
      | some ts => other (names (lineLength ts) ts)
      | none =>
      match eat "import" ts with
      | some ts => (modules (lineLength ts) ts).map fun x => (.imports x.1, x.2)
      | none =>
      match eat "from" ts with
      | some ts => importFrom ts
      | none =>
      match eat "yield" ts with
      | some _ => other (skip .yield ts)
      | none => expressionOrAssignment ts := by
  unfold simple
  split
  iterate 12 rfl
  next h1 h2 h3 h4 h5 h6 h7 h8 h9 h10 h11 h12 =>
    rw [eat_eq_none h1, eat_eq_none h2, eat_eq_none h3, eat_eq_none h4, eat_eq_none h5,
      eat_eq_none h6, eat_eq_none h7, eat_eq_none h8, eat_eq_none h9, eat_eq_none h10,
      eat_eq_none h11, eat_eq_none h12]

/-- A choice by the sign that comes next. -/
theorem carries_choice
    (h : Exchanged Lines After n ts us) (s : String) {α β : Type} {P : α → β → Prop}
    {f : List Lexeme → Option α} {g : List Lexeme → Option β} {x : Option α} {y : Option β}
    (hsome : ∀ ts us, Exchanged Lines After n ts us → Carries P (f ts) (g us))
    (hnone : Carries P x y) :
    Carries P
      (match eat s ts with
        | some ts => f ts
        | none => x)
      (match eat s us with
        | some us => g us
        | none => y) := by
  rcases h.eat s with ⟨hts, hus⟩ | ⟨ts', us', hts, hus, h'⟩ <;> simp only [hts, hus]
  · exact hnone
  · exact hsome ts' us' h'

theorem simple_carries (h : Exchanged Lines After n ts us) :
    Carries (Meets Lines After n) (simple ts) (simple us) := by
  have hother : ∀ {x y : Option (List Lexeme)}, Carries (Exchanged Lines After n) x y →
      Carries (Meets Lines After n) (x.map fun rest => (StatementKind.other, rest))
        (y.map fun rest => (StatementKind.other, rest)) :=
    fun h => h.map fun _ _ h => ⟨.same _, h⟩
  rw [simple_eq, simple_eq]
  dsimp only
  refine carries_choice h "return" (fun ts us h => ?_) ?_
  · rw [h.canStart, h.isAt]
    split
    · exact hother (skip_carries h (by simp))
    · exact hother (.some h)
  refine carries_choice h "raise" (fun ts us h => hother (raised_carries h)) ?_
  refine carries_choice h "pass" (fun ts us h => hother (.some h)) ?_
  refine carries_choice h "break" (fun ts us h => hother (.some h)) ?_
  refine carries_choice h "continue" (fun ts us h => hother (.some h)) ?_
  refine carries_choice h "del" (fun ts us h => hother (deleted_carries h.lineLength_le h)) ?_
  refine carries_choice h "assert" (fun ts us h => hother (asserted_carries h)) ?_
  refine carries_choice h "global" (fun ts us h => hother (names_carries h.lineLength_le h)) ?_
  refine carries_choice h "nonlocal" (fun ts us h => hother (names_carries h.lineLength_le h)) ?_
  refine carries_choice h "import" (fun ts us h => ?_) ?_
  · exact (modules_carries h.lineLength_le h).map fun _ _ h => ⟨h.1 ▸ .same _, h.2⟩
  refine carries_choice h "from" (fun ts us h => importFrom_carries h) ?_
  refine carries_choice h "yield" (fun _ _ _ => hother (skip_carries h (by simp))) ?_
  exact expressionOrAssignment_carries h

theorem KindLoosens.antisymm {kind kind' : StatementKind} (h : KindLoosens kind kind')
    (h' : KindLoosens kind' kind) : kind = kind' := by
  cases h with
  | same => rfl
  | text => cases h'

/-- Where nothing gave way the kind of a statement is the same. -/
theorem simple_kinds (h : Exchanged Lines After n ts us) :
    Carries (fun a b => (n = 0 → a.1 = b.1) ∧ Exchanged Lines After n a.2 b.2) (simple ts)
      (simple us) := by
  intro a ha
  obtain ⟨b, hb, hkind, hrest⟩ := simple_carries h a ha
  refine ⟨b, hb, ?_, hrest⟩
  rintro rfl
  obtain ⟨c, hc, hkind', -⟩ := simple_carries h.symm b hb
  obtain rfl : c = a := Option.some.inj (hc.symm.trans ha)
  exact hkind.antisymm hkind'

/-- What a statement says, wherever it stands. -/
def content (s : Statement) : StatementKind × List Token := (s.kind, s.tokens)

/-- Two statements say the same, on lines that are related if there are any. -/
structure Alike (Lines : Nat → Nat → Prop) (s t : Statement) : Prop where
  content : s.content = t.content
  lines : Lines s.lastLine t.lastLine ∨ s.lastLine = 0 ∧ t.lastLine = 0

theorem getLast?_alike {l m : List Lexeme} (h : List.Forall₂ (Lexeme.Alike Lines) l m) :
    l.getLast? = none ∧ m.getLast? = none ∨
      ∃ t u, l.getLast? = some t ∧ m.getLast? = some u ∧ t.Alike Lines u := by
  have hreverse := List.forall₂_reverse_iff.2 h
  rw [List.getLast?_eq_head?_reverse, List.getLast?_eq_head?_reverse]
  generalize l.reverse = l, m.reverse = m at hreverse
  cases hreverse with
  | nil => exact .inl ⟨rfl, rfl⟩
  | cons htu _ => exact .inr ⟨_, _, rfl, rfl, htu⟩

/-- Statements of the same tokens are alike. -/
theorem alike_ofTokens {rest rest' : List Lexeme} (kind : StatementKind)
    (h : List.Forall₂ (Lexeme.Alike Lines) (ts.take (ts.length - rest.length))
      (us.take (us.length - rest'.length))) :
    Alike Lines (ofTokens kind ts rest) (ofTokens kind us rest') where
  content := congrArg (Prod.mk kind) (map_token_eq h)
  lines := by
    rw [ofTokens, ofTokens]
    rcases getLast?_alike h with ⟨hl, hm⟩ | ⟨t, u, hl, hm, htu⟩
    · exact .inr ⟨by rw [hl]; rfl, by rw [hm]; rfl⟩
    · refine .inl ?_
      rw [hl, hm]
      exact htu.2

theorem line_behind {A B : List Lexeme} {k m : Nat} (hm : k ≤ m)
    (h : Exchanged Lines (Behind A B) n ts us) :
    Carries (fun a b => (n = 0 → List.Forall₂ (Alike Lines) a.1 b.1) ∧ Behind A B a.2 b.2)
      (line k ts) (line m us) := by
  induction k generalizing m ts us with
  | zero => exact .none_left
  | succ k ih =>
      obtain ⟨m, rfl⟩ : ∃ j, m = j + 1 := ⟨m - 1, by omega⟩
      unfold line
      refine (simple_kinds h).bind ?_
      rintro ⟨kind, ts'⟩ ⟨kind', us'⟩ ⟨hkind, hab⟩
      have hfirst : n = 0 → Alike Lines (ofTokens kind ts ts') (ofTokens kind' us us') := by
        rintro rfl
        obtain rfl : kind = kind' := hkind rfl
        exact alike_ofTokens kind (h.between hab)
      dsimp only at hab ⊢
      rcases hab.eat ";" with ⟨hts, hus⟩ | ⟨ts', us', hts, hus, h'⟩ <;> simp only [hts, hus]
      · exact (carries_newline hab).map fun _ _ h => ⟨fun hn => .cons (hfirst hn) .nil, h⟩
      · rcases eatLayout_newline h' with ⟨hts, hus⟩ | ⟨ts'', us'', hts, hus, hafter⟩ <;>
          simp only [hts, hus]
        · exact (ih (by omega) h').bind fun a b hab =>
            .some ⟨fun hn => .cons (hfirst hn) (hab.1 hn), hab.2⟩
        · exact .some ⟨fun hn => .cons (hfirst hn) .nil, hafter⟩

/-- What is read as the statements of a line is read as such after texts in it gave way, and if
none did the statements are alike. -/
theorem line_carries {k m : Nat} (hm : k ≤ m) (h : Exchanged Lines After n ts us) :
    Carries (fun a b => (n = 0 → List.Forall₂ (Alike Lines) a.1 b.1) ∧ After a.2 b.2)
      (line k ts) (line m us) := by
  obtain ⟨A, B, hafter, h⟩ := h.behind
  intro a ha
  obtain ⟨b, hb, halike, hA, hB⟩ := line_behind hm h a ha
  exact ⟨b, hb, halike, hA ▸ hB ▸ hafter⟩

end Statement

end SecretScan.Script

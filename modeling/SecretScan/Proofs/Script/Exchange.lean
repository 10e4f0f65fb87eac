import Mathlib.Data.List.Forall2
import SecretScan.Script.Expression

/-!
# Texts that give way to references

Where a reference stands in the place of a text, six tokens stand in the place of one.
`Exchanged` relates the tokens of one line before and after: a text may give way if no
text stands next to it and no point before it. What the readers of expressions look at, a
sign, a name or whether an expression can start, they find on both sides (`Exchanged.eat`
and what follows it).
-/

namespace SecretScan.Script

/-! ## Shapes -/

namespace Shape

/-- What may be assigned to some expressions or deleted may be to others. -/
structure AllLoosen (a b : List Shape) : Prop where
  targets : areTargets a = true → areTargets b = true
  deletable : areDeletable a = true → areDeletable b = true

/-- What may be assigned to an expression or deleted may be to another one, which is no plain text
unless the first one is. -/
structure Loosens (s t : Shape) : Prop where
  starred : t.isStarred = s.isStarred
  plain : t.isText = true → s.isText = true
  single : s.isSingleTarget = true → t.isSingleTarget = true
  target : s.isTarget = true → t.isTarget = true
  assignable : s.isAssignable = true → t.isAssignable = true
  deletable : s.isDeletable = true → t.isDeletable = true
  parts : AllLoosen s.parts t.parts

theorem AllLoosen.refl (a : List Shape) : AllLoosen a a := ⟨id, id⟩

theorem Loosens.refl (s : Shape) : s.Loosens s := ⟨rfl, id, id, id, id, id, .refl _⟩

/-- A part of something else allows all that a text allows, which is nothing. -/
theorem Loosens.text_member : text.Loosens member where
  starred := rfl
  plain := by simp
  single := by simp
  target := by simp
  assignable := by simp
  deletable := by simp
  parts := .refl []

variable {s t : Shape} {a b : List Shape}

theorem Loosens.group (h : s.Loosens t) : (group s).Loosens (group t) where
  starred := rfl
  plain := by simpa only [isText] using h.plain
  single := by simpa only [isSingleTarget] using h.single
  target := by simpa only [isTarget] using h.target
  assignable := by simpa only [isAssignable, isTarget] using h.target
  deletable := by simpa only [isDeletable] using h.deletable
  parts := .refl []

theorem Loosens.behindStar (h : s.Loosens t) : (Shape.starred s).Loosens (Shape.starred t) where
  starred := rfl
  plain := by simp
  single := by simp
  target := by simp
  assignable := by simpa only [isAssignable] using h.target
  deletable := by simp
  parts := .refl []

theorem AllLoosen.tuple (h : AllLoosen a b) : (tuple a).Loosens (tuple b) where
  starred := rfl
  plain := by simp
  single := by simp
  target := by simpa only [isTarget] using h.targets
  assignable := by simpa only [isAssignable, isTarget] using h.targets
  deletable := by simpa only [isDeletable] using h.deletable
  parts := h

theorem AllLoosen.list (h : AllLoosen a b) : (list a).Loosens (list b) where
  starred := rfl
  plain := by simp
  single := by simp
  target := by simpa only [isTarget] using h.targets
  assignable := by simpa only [isAssignable, isTarget] using h.targets
  deletable := by simpa only [isDeletable] using h.deletable
  parts := .refl []

theorem areTargets_cons (s : Shape) (a : List Shape) :
    areTargets (s :: a) = (s.isAssignable && areTargets a) := by
  cases s <;> simp

theorem Loosens.cons (hs : s.Loosens t) (h : AllLoosen a b) : AllLoosen (s :: a) (t :: b) where
  targets := by
    rw [areTargets_cons, areTargets_cons, Bool.and_eq_true, Bool.and_eq_true]
    exact And.imp hs.assignable h.targets
  deletable := by
    rw [areDeletable, areDeletable, Bool.and_eq_true, Bool.and_eq_true]
    exact And.imp hs.deletable h.deletable

end Shape

/-! ## Tokens -/

theorem eat_eq_some {s : String} {ts rest : List Lexeme} :
    eat s ts = some rest ↔ ∃ line, ts = ⟨.sign s, line⟩ :: rest := by
  unfold eat
  split
  · next u line rest' => simp [and_comm, eq_comm]
  · next hts =>
      refine ⟨nofun, ?_⟩
      rintro ⟨line, rfl⟩
      exact (hts _ _ _ rfl).elim

theorem eatName_eq_some {s : String} {ts rest : List Lexeme} :
    eatName ts = some (s, rest) ↔ ∃ line, ts = ⟨.name s, line⟩ :: rest := by
  unfold eatName
  split
  · next u line rest' => simp
  · next hts =>
      refine ⟨nofun, ?_⟩
      rintro ⟨line, rfl⟩
      exact (hts _ _ _ rfl).elim

theorem eat_eq_none {s : String} {ts : List Lexeme}
    (h : ∀ line rest, ts = ⟨.sign s, line⟩ :: rest → False) : eat s ts = none := by
  rw [Option.eq_none_iff_forall_ne_some]
  intro rest hrest
  obtain ⟨line, heq⟩ := eat_eq_some.1 hrest
  exact h line rest heq

theorem isAtAny_eq_false {ts : List Lexeme} (signs : List String)
    (h : ∀ s line rest, ts = ⟨.sign s, line⟩ :: rest → False) : isAtAny signs ts = false := by
  unfold isAtAny
  split
  · exact (h _ _ _ rfl).elim
  · rfl

theorem eatNamed_eq_none {s : String} {ts : List Lexeme}
    (h : ∀ u line line' rest, ts = ⟨.name u, line⟩ :: ⟨.sign s, line'⟩ :: rest → False) :
    ((eatName ts).bind fun p => eat s p.2) = none := by
  rw [Option.bind_eq_none_iff]
  rintro ⟨u, ts'⟩ hname
  obtain ⟨line, rfl⟩ := eatName_eq_some.1 hname
  exact eat_eq_none fun line' rest heq => h u line line' rest (by rw [show ts' = _ from heq])

theorem eatPart_eq_some {ts rest : List Lexeme} {u : String}
    (h : (eat "." ts).bind eatName = some (u, rest)) :
    ∃ line line', ts = ⟨.sign ".", line⟩ :: ⟨.name u, line'⟩ :: rest := by
  obtain ⟨ts', hsign, hname⟩ := Option.bind_eq_some_iff.1 h
  obtain ⟨line, rfl⟩ := eat_eq_some.1 hsign
  obtain ⟨line', rfl⟩ := eatName_eq_some.1 hname
  exact ⟨line, line', rfl⟩

theorem eatPart_eq_none {ts : List Lexeme}
    (h : ∀ line u line' rest, ts = ⟨.sign ".", line⟩ :: ⟨.name u, line'⟩ :: rest → False) :
    (eat "." ts).bind eatName = none := by
  rw [Option.bind_eq_none_iff]
  intro ts' hsign
  obtain ⟨line, rfl⟩ := eat_eq_some.1 hsign
  rw [Option.eq_none_iff_forall_ne_some]
  rintro ⟨u, rest⟩ hname
  obtain ⟨line', rfl⟩ := eatName_eq_some.1 hname
  exact h line u line' rest rfl

theorem eatTwo_eq_none {s t : String} {ts : List Lexeme}
    (h : ∀ line line' rest, ts = ⟨.sign s, line⟩ :: ⟨.sign t, line'⟩ :: rest → False) :
    (eat s ts).bind (eat t) = none := by
  rw [Option.bind_eq_none_iff]
  intro ts' hsign
  obtain ⟨line, rfl⟩ := eat_eq_some.1 hsign
  exact eat_eq_none fun line' rest heq => h line line' rest (by rw [heq])

theorem lineLength_cons {t : Token} (ht : t ≠ .newline) (line : Nat) (ts : List Lexeme) :
    lineLength (⟨t, line⟩ :: ts) = lineLength ts + 1 := by
  simp [lineLength, ht]

/-- The tokens of a reference. -/
def referenceTokens (name : List Char) (line : Nat) : List Lexeme :=
  [⟨.name "os", line⟩, ⟨.sign ".", line⟩, ⟨.name "environ", line⟩, ⟨.sign "[", line⟩,
    ⟨.text ⟨false, false, false, name⟩, line⟩, ⟨.sign "]", line⟩]

/-- Whether a text comes next. -/
def atText : List Lexeme → Bool
  | ⟨.text _, _⟩ :: _ => true
  | _ => false

/-- A token next to which no text may give way: a text on both its sides, a point behind it. -/
def Token.holdsTexts : Token → Bool
  | .text _ => true
  | .sign s => s == "."
  | _ => false

/-- Two tokens are the same, on lines that are related. -/
def Lexeme.Alike (Lines : Nat → Nat → Prop) (t u : Lexeme) : Prop :=
  t.token = u.token ∧ Lines t.line u.line

theorem map_token_eq {Lines : Nat → Nat → Prop} {l m : List Lexeme}
    (h : List.Forall₂ (Lexeme.Alike Lines) l m) : l.map (·.token) = m.map (·.token) := by
  induction h with
  | nil => rfl
  | cons htu _ ih => rw [List.map_cons, List.map_cons, htu.1, ih]

/-- Behind the ends of two lines stands what is given. -/
def Behind (A B : List Lexeme) (ts us : List Lexeme) : Prop := ts = A ∧ us = B

/-- Up to the end of the line the tokens are the same, except that at most so many texts gave
way to references; behind the end of the line they are related in some other way, and so is
nothing to nothing if the line has no end. The numbers of their lines are related, too. -/
inductive Exchanged (Lines : Nat → Nat → Prop) (After : List Lexeme → List Lexeme → Prop) :
    Nat → List Lexeme → List Lexeme → Prop
  | nil {n : Nat} : After [] [] → Exchanged Lines After n [] []
  | newline {n line line' : Nat} {ts us : List Lexeme} : Lines line line' → After ts us →
      Exchanged Lines After n (⟨.newline, line⟩ :: ts) (⟨.newline, line'⟩ :: us)
  | keep {n line line' : Nat} {t : Token} {ts us : List Lexeme} : Lines line line' →
      t ≠ .newline → (t.holdsTexts = true → atText us = atText ts) → Exchanged Lines After n ts us →
      Exchanged Lines After n (⟨t, line⟩ :: ts) (⟨t, line'⟩ :: us)
  | swap {n line line' : Nat} {body name : List Char} {ts us : List Lexeme} :
      Lines line line' → atText ts = false → Exchanged Lines After n ts us →
      Exchanged Lines After (n + 1) (⟨.text ⟨false, false, false, body⟩, line⟩ :: ts)
        (referenceTokens name line' ++ us)

namespace Exchanged

variable {Lines : Nat → Nat → Prop} {After : List Lexeme → List Lexeme → Prop}
  {n m : Nat} {ts us : List Lexeme}

theorem mono (h : Exchanged Lines After n ts us) (hm : n ≤ m) : Exchanged Lines After m ts us := by
  induction h generalizing m with
  | nil hafter => exact .nil hafter
  | newline hline hafter => exact .newline hline hafter
  | keep hline ht htext _ ih => exact .keep hline ht htext (ih hm)
  | swap hline htext _ ih =>
      cases m with
      | zero => omega
      | succ m => exact .swap hline htext (ih (Nat.le_of_succ_le_succ hm))

/-- Where texts gave way the line is longer. -/
theorem lineLength (h : Exchanged Lines After n ts us) :
    ∃ k ≤ n, Exchanged Lines After k ts us ∧ lineLength us = lineLength ts + 5 * k := by
  induction h with
  | nil hafter => exact ⟨0, Nat.zero_le _, .nil hafter, rfl⟩
  | newline hline hafter => exact ⟨0, Nat.zero_le _, .newline hline hafter, rfl⟩
  | keep hline ht htext _ ih =>
      obtain ⟨k, hk, h, hlen⟩ := ih
      refine ⟨k, hk, .keep hline ht htext h, ?_⟩
      rw [lineLength_cons ht, lineLength_cons ht, hlen]
      omega
  | swap hline htext _ ih =>
      obtain ⟨k, hk, h, hlen⟩ := ih
      refine ⟨k + 1, Nat.succ_le_succ hk, .swap hline htext h, ?_⟩
      simp only [referenceTokens, List.cons_append, List.nil_append, lineLength_cons, ne_eq,
        reduceCtorEq, not_false_eq_true, hlen]
      omega

/-- A sign comes next on both sides or on none. -/
theorem eat (h : Exchanged Lines After n ts us) (s : String) :
    (eat s ts = none ∧ eat s us = none) ∨
      ∃ ts' us', Script.eat s ts = some ts' ∧ Script.eat s us = some us' ∧
        Exchanged Lines After n ts' us' := by
  cases h with
  | nil _ => exact .inl ⟨rfl, rfl⟩
  | newline _ _ => exact .inl ⟨rfl, rfl⟩
  | @keep n line line' t ts us _ ht htext h =>
      cases t with
      | sign u =>
          by_cases hu : u = s
          · exact .inr ⟨ts, us, by simp [Script.eat, hu], by simp [Script.eat, hu], h⟩
          · exact .inl ⟨by simp [Script.eat, hu], by simp [Script.eat, hu]⟩
      | _ => exact .inl ⟨rfl, rfl⟩
  | swap _ _ _ => exact .inl ⟨rfl, rfl⟩

theorem isAt (h : Exchanged Lines After n ts us) (s : String) : isAt s us = isAt s ts := by
  rw [Script.isAt, Script.isAt]
  rcases h.eat s with ⟨hts, hus⟩ | ⟨ts', us', hts, hus, -⟩ <;> rw [hts, hus]
  rfl

theorem isAtAny (h : Exchanged Lines After n ts us) (signs : List String) :
    isAtAny signs us = isAtAny signs ts := by
  cases h with
  | nil _ => rfl
  | newline _ _ => rfl
  | @keep n line line' t ts us _ _ _ _ => cases t <;> rfl
  | swap _ _ _ => rfl

theorem canStart (h : Exchanged Lines After n ts us) :
    Expression.canStart us = Expression.canStart ts := by
  cases h with
  | nil _ => rfl
  | newline _ _ => rfl
  | @keep n line line' t ts us _ _ _ _ => cases t <;> rfl
  | swap _ _ _ => rfl

theorem drop_one (h : Exchanged Lines After n ts us) {signs : List String}
    (hs : Script.isAtAny signs ts = true) : Exchanged Lines After n (ts.drop 1) (us.drop 1) := by
  cases h with
  | nil hafter => exact .nil hafter
  | newline _ _ => cases hs
  | keep _ _ _ h => exact h
  | swap _ _ _ => cases hs

theorem drop_sign (h : Exchanged Lines After n ts us) {s : String} (hs : Script.isAt s ts = true) :
    Exchanged Lines After n (ts.drop 1) (us.drop 1) := by
  rcases h.eat s with ⟨hts, -⟩ | ⟨ts', us', hts, -, -⟩
  · rw [Script.isAt, hts] at hs
    cases hs
  · cases h with
    | nil hafter => exact .nil hafter
    | newline _ _ => cases hts
    | keep _ _ _ h => exact h
    | swap _ _ _ => cases hts

/-- A name that comes next comes next on the other side, too. -/
theorem eatName (h : Exchanged Lines After n ts us) {s : String} {ts' : List Lexeme}
    (hname : eatName ts = some (s, ts')) :
    ∃ us', Script.eatName us = some (s, us') ∧ Exchanged Lines After n ts' us' := by
  cases h with
  | nil _ => cases hname
  | newline _ _ => cases hname
  | @keep n line line' t ts us _ _ _ h =>
      cases t with
      | name u =>
          obtain ⟨rfl, rfl⟩ : u = s ∧ ts = ts' := by simpa [Script.eatName] using hname
          exact ⟨us, rfl, h⟩
      | _ => cases hname
  | swap _ _ _ => cases hname

/-- What is assigned to a name inside an expression begins on both sides or on none. -/
theorem eatNamed (h : Exchanged Lines After n ts us) (s : String) (hs : s ≠ ".") :
    ((Script.eatName ts).bind fun p => Script.eat s p.2) = none ∧
        ((Script.eatName us).bind fun p => Script.eat s p.2) = none ∨
      ∃ ts' us', ((Script.eatName ts).bind fun p => Script.eat s p.2) = some ts' ∧
        ((Script.eatName us).bind fun p => Script.eat s p.2) = some us' ∧
        Exchanged Lines After n ts' us' := by
  cases h with
  | nil _ => exact .inl ⟨rfl, rfl⟩
  | newline _ _ => exact .inl ⟨rfl, rfl⟩
  | @keep n line line' t ts us _ _ _ h =>
      cases t with
      | name u => exact h.eat s
      | _ => exact .inl ⟨rfl, rfl⟩
  | swap _ _ _ => exact .inl ⟨rfl, by simp [referenceTokens, Script.eatName, Script.eat, hs.symm]⟩

/-- A name behind a point comes next on both sides or on none: behind a point no text gives
way. -/
theorem eatPart (h : Exchanged Lines After n ts us) :
    (Script.eat "." ts).bind Script.eatName = none ∧
        (Script.eat "." us).bind Script.eatName = none ∨
      ∃ s ts' us', (Script.eat "." ts).bind Script.eatName = some (s, ts') ∧
        (Script.eat "." us).bind Script.eatName = some (s, us') ∧
        Exchanged Lines After n ts' us' := by
  cases h with
  | nil _ => exact .inl ⟨rfl, rfl⟩
  | newline _ _ => exact .inl ⟨rfl, rfl⟩
  | swap _ _ _ => exact .inl ⟨rfl, rfl⟩
  | @keep n line line' t ts us _ _ htext h =>
      cases t with
      | sign u =>
          by_cases hu : u = "."
          · have htext := htext (by simp [Token.holdsTexts, hu])
            simp only [Script.eat, hu, if_true, Option.bind_some]
            cases h with
            | nil _ => exact .inl ⟨rfl, rfl⟩
            | newline _ _ => exact .inl ⟨rfl, rfl⟩
            | swap _ _ _ => cases htext
            | @keep n line line' t ts us _ _ _ h =>
                cases t with
                | name s => exact .inr ⟨s, ts, us, rfl, rfl, h⟩
                | _ => exact .inl ⟨rfl, rfl⟩
          · exact .inl (by simp [Script.eat, hu])
      | _ => exact .inl ⟨rfl, rfl⟩

theorem imp {After' : List Lexeme → List Lexeme → Prop}
    (hafter : ∀ ts us, After ts us → After' ts us)
    (h : Exchanged Lines After n ts us) : Exchanged Lines After' n ts us := by
  induction h with
  | nil h => exact .nil (hafter _ _ h)
  | newline hline h => exact .newline hline (hafter _ _ h)
  | keep hline ht htext _ ih => exact .keep hline ht htext ih
  | swap hline htext _ ih => exact .swap hline htext ih

/-- What stands behind the line is not looked at. -/
theorem behind (h : Exchanged Lines After n ts us) :
    ∃ A B, After A B ∧ Exchanged Lines (Behind A B) n ts us := by
  induction h with
  | nil h => exact ⟨[], [], h, .nil ⟨rfl, rfl⟩⟩
  | newline hline h => exact ⟨_, _, h, .newline hline ⟨rfl, rfl⟩⟩
  | keep hline ht htext _ ih =>
      obtain ⟨A, B, hafter, h⟩ := ih
      exact ⟨A, B, hafter, .keep hline ht htext h⟩
  | swap hline htext _ ih =>
      obtain ⟨A, B, hafter, h⟩ := ih
      exact ⟨A, B, hafter, .swap hline htext h⟩

/-- Where nothing gave way the tokens of the line are the same. -/
theorem parts {A B : List Lexeme} (h : Exchanged Lines (Behind A B) 0 ts us) :
    ∃ l m, ts = l ++ A ∧ us = m ++ B ∧ List.Forall₂ (Lexeme.Alike Lines) l m := by
  generalize hn : 0 = n at h
  induction h with
  | nil h => exact ⟨[], [], h.1, h.2, .nil⟩
  | newline hline h =>
      obtain ⟨rfl, rfl⟩ := h
      exact ⟨[_], [_], rfl, rfl, .cons ⟨rfl, hline⟩ .nil⟩
  | keep hline _ _ _ ih =>
      obtain ⟨l, m, rfl, rfl, h⟩ := ih hn
      exact ⟨_ :: l, _ :: m, rfl, rfl, .cons ⟨rfl, hline⟩ h⟩
  | swap _ _ _ _ => cases hn

/-- The tokens between two places of a line are the same where nothing gave way. -/
theorem between {A B rest rest' : List Lexeme} (h : Exchanged Lines (Behind A B) 0 ts us)
    (hrest : Exchanged Lines (Behind A B) 0 rest rest') :
    List.Forall₂ (Lexeme.Alike Lines) (ts.take (ts.length - rest.length))
      (us.take (us.length - rest'.length)) := by
  obtain ⟨l, m, rfl, rfl, hlm⟩ := h.parts
  obtain ⟨r, s, rfl, rfl, hrs⟩ := hrest.parts
  have hl := hlm.length_eq
  have hr := hrs.length_eq
  rw [List.length_append, List.length_append, List.length_append, List.length_append,
    Nat.add_sub_add_right, Nat.add_sub_add_right, ← hl, ← hr,
    List.take_append_of_le_length (Nat.sub_le _ _),
    List.take_append_of_le_length (hl ▸ Nat.sub_le _ _)]
  exact List.forall₂_take _ hlm

/-- Where nothing gave way the two sides play the same part. -/
theorem symm (h : Exchanged Lines After 0 ts us) :
    Exchanged (fun l m => Lines m l) (fun ts us => After us ts) 0 us ts := by
  generalize hn : 0 = n at h
  induction h with
  | nil hafter => exact .nil hafter
  | newline hline hafter => exact .newline hline hafter
  | keep hline ht htext _ ih => exact .keep hline ht (fun h => (htext h).symm) (ih hn)
  | swap _ _ _ _ => cases hn

end Exchanged

/-! ## Readers -/

/-- Where one reader succeeds the other one does, with a related result. -/
def Carries {α β : Type} (P : α → β → Prop) (x : Option α) (y : Option β) : Prop :=
  ∀ a, x = some a → ∃ b, y = some b ∧ P a b

namespace Carries

variable {α β γ δ : Type} {P : α → β → Prop} {Q : γ → δ → Prop} {x : Option α} {y : Option β}

theorem none_left : Carries P none y := by
  intro a ha
  cases ha

theorem some {a : α} {b : β} (h : P a b) : Carries P (some a) (some b) := by
  rintro _ ⟨⟩
  exact ⟨b, rfl, h⟩

theorem bind {f : α → Option γ} {g : β → Option δ} (h : Carries P x y)
    (hf : ∀ a b, P a b → Carries Q (f a) (g b)) : Carries Q (x >>= f) (y >>= g) := by
  intro c hc
  obtain ⟨a, ha, hfa⟩ := Option.bind_eq_some_iff.1 hc
  obtain ⟨b, hb, hab⟩ := h a ha
  obtain ⟨d, hd, hcd⟩ := hf a b hab c hfa
  exact ⟨d, by rw [hb]; exact hd, hcd⟩

theorem map {f : α → γ} {g : β → δ} (h : Carries P x y) (hf : ∀ a b, P a b → Q (f a) (g b)) :
    Carries Q (x.map f) (y.map g) := by
  intro c hc
  obtain ⟨a, ha, rfl⟩ := Option.map_eq_some_iff.1 hc
  obtain ⟨b, hb, hab⟩ := h a ha
  exact ⟨g b, by rw [hb]; rfl, hf a b hab⟩

/-- Two readers of which each one succeeds where the other one does. -/
theorem both {R : β → α → Prop} (h : Carries P x y) (h' : Carries R y x) :
    (x = none ∧ y = none) ∨ ∃ a b, x = Option.some a ∧ y = Option.some b ∧ P a b := by
  cases x with
  | some a =>
      obtain ⟨b, hb, hab⟩ := h a rfl
      exact .inr ⟨a, b, rfl, hb, hab⟩
  | none =>
      cases y with
      | none => exact .inl ⟨rfl, rfl⟩
      | some b =>
          obtain ⟨a, ha, -⟩ := h' b rfl
          cases ha

end Carries

section

variable {Lines : Nat → Nat → Prop} {After : List Lexeme → List Lexeme → Prop}
  {n : Nat} {ts us : List Lexeme}

theorem Exchanged.carries_eat (h : Exchanged Lines After n ts us) (s : String) :
    Carries (Exchanged Lines After n) (Script.eat s ts) (Script.eat s us) := by
  rcases h.eat s with ⟨hts, -⟩ | ⟨ts', us', hts, hus, h'⟩
  · rw [hts]
    exact .none_left
  · rw [hts, hus]
    exact .some h'

/-- Two readers come to the same place with the same result. -/
def Keeps {α : Type} (Lines : Nat → Nat → Prop)
    (After : List Lexeme → List Lexeme → Prop) (n : Nat)
    (a b : α × List Lexeme) : Prop :=
  a.1 = b.1 ∧ Exchanged Lines After n a.2 b.2

theorem Carries.bind_keeps {α β γ : Type} {P : β → γ → Prop} {x y : Option (α × List Lexeme)}
    {f : α × List Lexeme → Option β} {g : α × List Lexeme → Option γ}
    (h : Carries (Keeps Lines After n) x y)
    (hf : ∀ a ts us, Exchanged Lines After n ts us → Carries P (f (a, ts)) (g (a, us))) :
    Carries P (x >>= f) (y >>= g) := by
  refine h.bind ?_
  rintro ⟨a, ts⟩ ⟨b, us⟩ ⟨heq, h⟩
  obtain rfl : a = b := heq
  exact hf a ts us h

theorem Exchanged.carries_eatName (h : Exchanged Lines After n ts us) :
    Carries (Keeps Lines After n) (Script.eatName ts) (Script.eatName us) := by
  rintro ⟨s, ts'⟩ hts
  obtain ⟨us', hus, h'⟩ := h.eatName hts
  exact ⟨(s, us'), hus, rfl, h'⟩

end

end SecretScan.Script

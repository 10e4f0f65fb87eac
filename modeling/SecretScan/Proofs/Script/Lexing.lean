import Mathlib.Data.List.TakeWhile
import SecretScan.Proofs.Script.Tokens

/-!
# Tokens of a text

The reader of tokens goes through a text step by step. A step in front of a seam is the same step
where the text stands further down and other characters follow (`Step.moved`), so the tokens of a
part of a text are known from this part alone, whatever is put before and behind it.
-/

namespace SecretScan.Script

/-- Where the reader of tokens is: at the start of a line or inside of one, the margins that are
open, and the place. -/
structure Reader where
  atStart : Bool
  margins : List Margin
  place : Place

namespace Reader

/-- Reads the tokens that are left. -/
def read (fuel : Nat) (r : Reader) : Option (List Lexeme) :=
  readTokens fuel r.atStart r.margins r.place

/-- The reader at the start of a line, with no open blocks. -/
def atLine (s : List Char) (line : Nat) : Reader := ⟨true, [{}], { rest := s, line }⟩

/-- The same reader so many lines further down, where another text stands. -/
def moved (r : Reader) (k : Nat) (s : List Char) : Reader := { r with place := r.place.moved k s }

end Reader

/-- The same token so many lines further down. -/
def Lexeme.down (k : Nat) (t : Lexeme) : Lexeme := { t with line := t.line + k }

theorem down_zero (ts : List Lexeme) : ts.map (·.down 0) = ts := by
  rw [show (fun t : Lexeme => t.down 0) = id from rfl, List.map_id]

/-- One step of the reader of tokens, with the tokens that it reads. -/
inductive Step : Reader → List Lexeme → Reader → Prop
  | blank {margins : List Margin} {p q : Place} {m : Margin} :
      Margin.read {} 0 p.line p.rest = some (m, q) → isBlankLine q.rest = true →
      Step ⟨true, margins, p⟩ []
        ⟨true, margins, { rest := afterLine q.rest, line := q.line + 1 }⟩
  | margin {margins margins' : List Margin} {p q : Place} {m : Margin} {marks : List Token} :
      Margin.read {} 0 p.line p.rest = some (m, q) → isBlankLine q.rest = false → q.rest ≠ [] →
      m.settle margins = some (marks, margins') →
      Step ⟨true, margins, p⟩ (marks.map (⟨·, q.line⟩)) ⟨false, margins', q⟩
  | newline {margins : List Margin} {p : Place} {rest : List Char} :
      p.rest = '\n' :: rest → p.awaited = [] →
      Step ⟨false, margins, p⟩ [⟨.newline, p.line⟩]
        ⟨true, margins, { p with rest, line := p.line + 1 }⟩
  | inside {margins : List Margin} {p : Place} {rest : List Char} :
      p.rest = '\n' :: rest → p.awaited ≠ [] →
      Step ⟨false, margins, p⟩ [] ⟨false, margins, { p with rest, line := p.line + 1 }⟩
  | joined {margins : List Margin} {p : Place} {c : Char} {rest : List Char} :
      p.rest = '\\' :: '\n' :: c :: rest →
      Step ⟨false, margins, p⟩ []
        ⟨false, margins, { p with rest := c :: rest, line := p.line + 1 }⟩
  | gap {margins : List Margin} {p : Place} {c : Char} {rest : List Char} :
      p.rest = c :: rest → c = ' ' ∨ c = '\t' ∨ c = '\x0c' →
      Step ⟨false, margins, p⟩ [] ⟨false, margins, { p with rest }⟩
  | comment {margins : List Margin} {p : Place} {rest : List Char} :
      p.rest = '#' :: rest →
      Step ⟨false, margins, p⟩ []
        ⟨false, margins, { p with rest := rest.dropWhile (· != '\n') }⟩
  | token {margins : List Margin} {p q : Place} {t : Token} : readToken p = some (t, q) →
      Step ⟨false, margins, p⟩ [⟨t, q.line⟩] ⟨false, margins, q⟩

/-- The reader has come to the end, where only blocks may still end. -/
structure Ends (r : Reader) (ts : List Lexeme) : Prop where
  atStart : r.atStart = true
  settled : ∃ m q marks margins, Margin.read {} 0 r.place.line r.place.rest = some (m, q) ∧
    q.rest = [] ∧ m.settle r.margins = some (marks, margins) ∧ ts = marks.map (⟨·, q.line⟩)

variable {r r' : Reader} {ts us : List Lexeme}

theorem Step.read (h : Step r ts r') (fuel : Nat) :
    r.read (fuel + 1) = (r'.read fuel).map (ts ++ ·) := by
  cases h with
  | blank hmargin hblank => simp [Reader.read, readTokens, hmargin, hblank]
  | margin hmargin hblank hne hsettle =>
      simp [Reader.read, readTokens, hmargin, hblank, hsettle, hne]
  | newline hp hawaited => simp [Reader.read, readTokens, hp, hawaited]
  | inside hp hawaited => simp [Reader.read, readTokens, hp, hawaited]
  | joined hp => simp [Reader.read, readTokens, hp]
  | gap hp hc => rcases hc with rfl | rfl | rfl <;> simp [Reader.read, readTokens, hp]
  | comment hp => simp [Reader.read, readTokens, hp]
  | token ht =>
      obtain ⟨c, rest, hp, hc⟩ := readToken_plain ht
      simp only [layout, List.mem_cons, List.not_mem_nil, or_false, not_or] at hc
      rw [Reader.read, readTokens, hp]
      split
      · next heq => cases heq
      · next heq => exact absurd (List.cons.inj heq).1 hc.1
      · next heq => exact absurd (List.cons.inj heq).1 hc.2.1
      · next d more _ _ heq =>
          obtain ⟨rfl, rfl⟩ := List.cons.inj heq
          simp [ht, hc, Reader.read]

/-- What is read is read by a step, unless the reader has come to the end. -/
theorem Reader.read_cases {fuel : Nat} (h : r.read (fuel + 1) = some ts) :
    Ends r ts ∨ ∃ us r' vs, Step r us r' ∧ r'.read fuel = some vs ∧ ts = us ++ vs := by
  obtain ⟨atStart, margins, p⟩ := r
  cases atStart with
  | true =>
      rw [Reader.read, readTokens] at h
      obtain ⟨⟨m, q⟩, hmargin, h⟩ := Option.bind_eq_some_iff.1 h
      dsimp only at h
      split at h
      · next hblank => exact .inr ⟨[], _, ts, .blank hmargin hblank, h, rfl⟩
      · next hblank =>
          obtain ⟨⟨marks, margins'⟩, hsettle, h⟩ := Option.bind_eq_some_iff.1 h
          dsimp only at h
          split at h
          · next hend =>
              exact .inl ⟨rfl, m, q, marks, margins', hmargin, List.isEmpty_iff.1 hend, hsettle,
                (Option.some.inj h).symm⟩
          · next hend =>
              obtain ⟨vs, hvs, rfl⟩ := Option.map_eq_some_iff.1 h
              exact .inr ⟨_, _, vs, .margin hmargin (by simpa using hblank) (by simpa using hend)
                hsettle, hvs, rfl⟩
  | false =>
      right
      rw [Reader.read, readTokens] at h
      split at h
      · cases h
      · next rest hp =>
          dsimp only at h
          split at h
          · next hawaited =>
              obtain ⟨vs, hvs, rfl⟩ := Option.map_eq_some_iff.1 h
              exact ⟨_, _, vs, .newline hp (List.isEmpty_iff.1 hawaited), hvs, rfl⟩
          · next hawaited =>
              exact ⟨_, _, ts, .inside hp (by simpa using hawaited), h, rfl⟩
      · next c rest hp => exact ⟨_, _, ts, .joined hp, h, rfl⟩
      · next c rest hline hjoined hp =>
          split at h
          · next hc => exact ⟨_, _, ts, .gap hp (by simpa [or_assoc] using hc), h, rfl⟩
          · split at h
            · next hc =>
                obtain rfl := beq_iff_eq.1 hc
                exact ⟨_, _, ts, .comment hp, h, rfl⟩
            · split at h
              · next t q ht =>
                  obtain ⟨vs, hvs, rfl⟩ := Option.map_eq_some_iff.1 h
                  exact ⟨_, _, vs, .token ht, hvs, rfl⟩
              · cases h

/-- The step that the reader takes next, if it takes one. -/
def Reader.step? : Reader → Option (List Lexeme × Reader)
  | ⟨true, margins, p⟩ =>
    (Margin.read {} 0 p.line p.rest).bind fun (m, q) =>
      if isBlankLine q.rest then
        some ([], ⟨true, margins, { rest := afterLine q.rest, line := q.line + 1 }⟩)
      else (m.settle margins).map fun (marks, margins) =>
        (marks.map (⟨·, q.line⟩), ⟨false, margins, q⟩)
  | ⟨false, margins, p⟩ =>
    match p.rest with
    | [] => none
    | '\n' :: rest =>
      let next := { p with rest, line := p.line + 1 }
      if p.awaited.isEmpty then some ([⟨.newline, p.line⟩], ⟨true, margins, next⟩)
      else some ([], ⟨false, margins, next⟩)
    | '\\' :: '\n' :: c :: rest =>
      some ([], ⟨false, margins, { p with rest := c :: rest, line := p.line + 1 }⟩)
    | c :: rest =>
      if c == ' ' || c == '\t' || c == '\x0c' then some ([], ⟨false, margins, { p with rest }⟩)
      else if c == '#' then
        some ([], ⟨false, margins, { p with rest := rest.dropWhile (· != '\n') }⟩)
      else (readToken p).map fun (t, q) => ([⟨t, q.line⟩], ⟨false, margins, q⟩)

theorem Step.step?_eq (h : Step r ts r') : r.step? = some (ts, r') := by
  cases h with
  | blank hmargin hblank => simp [Reader.step?, hmargin, hblank]
  | margin hmargin hblank _ hsettle => simp [Reader.step?, hmargin, hblank, hsettle]
  | newline hp hawaited => simp [Reader.step?, hp, hawaited]
  | inside hp hawaited => simp [Reader.step?, hp, hawaited]
  | joined hp => simp [Reader.step?, hp]
  | gap hp hc => rcases hc with rfl | rfl | rfl <;> simp [Reader.step?, hp]
  | comment hp => simp [Reader.step?, hp]
  | token ht =>
      obtain ⟨c, rest, hp, hc⟩ := readToken_plain ht
      simp only [layout, List.mem_cons, List.not_mem_nil, or_false, not_or] at hc
      rw [Reader.step?, hp]
      split
      · next heq => cases heq
      · next heq => exact absurd (List.cons.inj heq).1 hc.1
      · next heq => exact absurd (List.cons.inj heq).1 hc.2.1
      · next d more _ _ heq =>
          obtain ⟨rfl, rfl⟩ := List.cons.inj heq
          simp [ht, hc]

/-- The reader never has a choice. -/
theorem Step.unique {r'' : Reader} (h : Step r ts r') (h' : Step r us r'') :
    ts = us ∧ r' = r'' :=
  Prod.mk.inj (Option.some.inj (h.step?_eq.symm.trans h'.step?_eq))

/-! ## Steps in front of a seam -/

theorem isBlankLine_cons (c : Char) (s : List Char) :
    isBlankLine (c :: s) = (c == '#' || c == '\n') := by
  by_cases hcomment : c = '#'
  · subst hcomment
    rfl
  · by_cases hline : c = '\n'
    · subst hline
      rfl
    · simp [isBlankLine, hcomment, hline]

theorem dropWhile_line {u w : List Char} (hu : '\n' ∉ u) :
    (u ++ '\n' :: w).dropWhile (· != '\n') = '\n' :: w := by
  rw [List.dropWhile_append_of_pos]
  · rfl
  · intro c hc
    rw [bne_iff_ne]
    rintro rfl
    exact hu hc

/-- What follows a line starts behind its end. -/
theorem afterLine_append {u w : List Char} (hu : '\n' ∉ u) : afterLine (u ++ '\n' :: w) = w := by
  rw [afterLine, dropWhile_line hu]
  rfl

theorem exists_line {s : List Char} (hs : '\n' ∈ s) :
    ∃ u, s = u ++ '\n' :: afterLine s ∧ '\n' ∉ u := by
  obtain ⟨u, v, rfl, hu⟩ := List.eq_append_cons_of_mem hs
  exact ⟨u, by rw [afterLine_append hu], hu⟩

theorem newline_mem_of_afterLine {s : List Char} (h : afterLine s ≠ []) : '\n' ∈ s := by
  by_contra hs
  refine h ?_
  have hnil : s.dropWhile (· != '\n') = [] := by
    refine List.dropWhile_eq_nil_iff.2 fun c hc => ?_
    rw [bne_iff_ne]
    rintro rfl
    exact hs hc
  rw [afterLine, hnil]
  rfl

/-- Behind a line there is nothing, or the line has an end. -/
theorem dropWhile_eq_nil_or {s : List Char} :
    s.dropWhile (· != '\n') = [] ∨ ∃ u w, s = u ++ '\n' :: w ∧ '\n' ∉ u ∧
      s.dropWhile (· != '\n') = '\n' :: w := by
  by_cases hs : '\n' ∈ s
  · obtain ⟨u, w, rfl, hu⟩ := List.eq_append_cons_of_mem hs
    exact .inr ⟨u, w, rfl, hu, dropWhile_line hu⟩
  · left
    refine List.dropWhile_eq_nil_iff.2 ?_
    intro c hc
    rw [bne_iff_ne]
    rintro rfl
    exact hs hc

theorem Step.rest_ne_nil (h : Step r ts r') : r.place.rest ≠ [] := by
  have hmargin : ∀ {p q : Place} {m : Margin}, q.rest ≠ [] →
      Margin.read {} 0 p.line p.rest = some (m, q) → p.rest ≠ [] := by
    intro p q m hne hmargin hp
    have hsuffix := (Margin.read_advances [] hmargin).suffix
    exact hne (List.suffix_nil.1 (hp ▸ hsuffix))
  cases h with
  | blank h hblank =>
      refine hmargin ?_ h
      rintro heq
      rw [heq] at hblank
      cases hblank
  | margin h hblank hne hsettle => exact hmargin hne h
  | newline hp hawaited => rw [hp]; exact List.cons_ne_nil _ _
  | inside hp hawaited => rw [hp]; exact List.cons_ne_nil _ _
  | joined hp => rw [hp]; exact List.cons_ne_nil _ _
  | gap hp hc => rw [hp]; exact List.cons_ne_nil _ _
  | comment hp => rw [hp]; exact List.cons_ne_nil _ _
  | token ht =>
      obtain ⟨c, rest, hp, -⟩ := readToken_plain ht
      rw [hp]
      exact List.cons_ne_nil _ _

/-- A step goes on in the text, and counts its lines. -/
theorem Step.advances (h : Step r ts r') (hr : IsWhole r.place.rest) :
    r.place.Advances r'.place := by
  have hnewline := hr.newline_mem h.rest_ne_nil
  cases h with
  | @blank margins p q m hmargin hblank =>
      have hmargin := Margin.read_advances p.awaited hmargin
      have hne : q.rest ≠ [] := by
        rintro heq
        rw [heq] at hblank
        cases hblank
      obtain ⟨u, hu, hline⟩ := exists_line ((hr.suffix hmargin.suffix).newline_mem hne)
      refine Place.Advances.trans hmargin (Place.advances_append (u := u ++ ['\n']) ?_ ?_)
      · simpa using hu
      · rw [List.count_append, List.count_eq_zero.2 hline]
        rfl
  | margin hmargin hblank hne hsettle => exact Margin.read_advances _ hmargin
  | newline hp hawaited => exact Place.advances_append (u := ['\n']) hp rfl
  | inside hp hawaited => exact Place.advances_append (u := ['\n']) hp rfl
  | joined hp => exact Place.advances_append (u := ['\\', '\n']) hp rfl
  | gap hp hc =>
      refine Place.advances_append (u := [_]) hp ?_
      rcases hc with rfl | rfl | rfl <;> rfl
  | @comment margins p rest hp =>
      rw [hp] at hnewline
      obtain ⟨u, w, rfl, hline⟩ :=
        List.eq_append_cons_of_mem (List.mem_of_ne_of_mem (by decide) hnewline)
      refine Place.advances_append (u := '#' :: u) ?_ ?_
      · rw [hp, dropWhile_line hline]
        rfl
      · rw [List.count_cons_of_ne (by decide), List.count_eq_zero.2 hline]
        rfl
  | token ht => exact (readToken_advances ht).1

theorem Step.whole (h : Step r ts r') (hr : IsWhole r.place.rest) : IsWhole r'.place.rest :=
  hr.suffix (h.advances hr).suffix

/-- What is left gets less, except that a line may start without a margin. -/
theorem Step.rest_length (h : Step r ts r') (hr : IsWhole r.place.rest) :
    r'.place.rest.length + (if r.atStart && !r'.atStart then 0 else 1) ≤ r.place.rest.length := by
  have hle := (h.advances hr).suffix.length_le
  have hlt : ∀ {s t : List Char} {c : Char}, s = c :: t → t.length + 1 ≤ s.length := by
    rintro s t c rfl
    rfl
  cases h with
  | @blank margins p q m hmargin hblank =>
      have hsuffix := (Margin.read_advances [] hmargin).suffix
      have hne : q.rest ≠ [] := by
        rintro heq
        rw [heq] at hblank
        cases hblank
      obtain ⟨u, hu, -⟩ := exists_line ((hr.suffix hsuffix).newline_mem hne)
      have hlen := congrArg List.length hu
      rw [List.length_append, List.length_cons] at hlen
      have hlt : (afterLine q.rest).length + 1 ≤ q.rest.length := by omega
      exact hlt.trans hsuffix.length_le
  | margin _ _ _ _ => exact hle
  | newline hp hawaited => exact hlt hp
  | inside hp hawaited => exact hlt hp
  | joined hp => exact (Nat.le_succ _).trans (hp ▸ Nat.le_refl _)
  | gap hp hc => exact hlt hp
  | comment hp => 
      refine le_trans ?_ (hlt hp)
      exact Nat.succ_le_succ (List.dropWhile_suffix _).length_le
  | token ht => exact (readToken_advances ht).2

section

variable {u u' v w : List Char}

theorem StartsApart.of_margin {s : List Char} (h : StartsApart s) :
    ∃ c rest, s = c :: rest ∧ c ∉ marginChars ∧ isBlankLine s = false := by
  obtain ⟨c, rest, rfl, hc, -⟩ := h
  have hmargin : ∀ c ∈ marginChars, c ∈ layout := List.all_iff_forall_prop.1 (by decide)
  refine ⟨c, rest, rfl, fun hmem => hc (hmargin c hmem), ?_⟩
  simp only [layout, List.mem_cons, List.not_mem_nil, or_false, not_or] at hc
  rw [isBlankLine_cons, beq_eq_false_iff_ne.2 hc.1, beq_eq_false_iff_ne.2 hc.2.2.2.2.2, Bool.or_self]

/-- A blank line is the same blank line at another place. -/
theorem Step.moved_blank {margins : List Margin} {p q : Place} {m : Margin}
    (hmargin : Margin.read {} 0 p.line p.rest = some (m, q)) (hblank : isBlankLine q.rest = true)
    (hu : p.rest = u ++ v) (hrest : afterLine q.rest = u' ++ v) (hv : Seam u v) (k : Nat) :
    Step ⟨true, margins, p.moved k (u ++ w)⟩ []
      (Reader.moved ⟨true, margins, { rest := afterLine q.rest, line := q.line + 1 }⟩ k
        (u' ++ w)) := by
  obtain ⟨x, hx, -, -, hhead, hsame⟩ := Margin.read_eq_some hmargin
  have hline : '\n' ∈ q.rest := by
    cases v with
    | cons d v => exact newline_mem_of_afterLine (by simp [hrest])
    | nil =>
        have hwhole : IsWhole u := by
          cases hv with
          | lines h => exact h
          | apart _ h =>
              obtain ⟨d, rest, heq, -⟩ := h
              cases heq
        rw [List.append_nil] at hu
        refine (hwhole.suffix (hu ▸ ⟨x, hx.symm⟩)).newline_mem ?_
        rintro heq
        rw [heq] at hblank
        cases hblank
  obtain ⟨y, hy, hyline⟩ := exists_line hline
  rw [hrest] at hy
  obtain rfl : u = x ++ (y ++ '\n' :: u') := by
    refine List.append_cancel_right (hu.symm.trans ?_)
    simp [hx, hy]
  -- the first character behind the margin is the same
  obtain ⟨c, z, z', hqz, hz⟩ : ∃ c z z', q.rest = c :: z ∧ y ++ '\n' :: (u' ++ w) = c :: z' := by
    cases y with
    | nil => exact ⟨_, _, _, hy, rfl⟩
    | cons d y => exact ⟨_, _, _, hy, rfl⟩
  rw [hqz, isBlankLine_cons] at hblank
  have hstep : Step ⟨true, margins, p.moved k (x ++ c :: z')⟩ []
      ⟨true, margins, { rest := afterLine (c :: z'), line := q.line + k + 1 }⟩ :=
    .blank (q := ⟨c :: z', q.line + k, []⟩) (hsame k c z' (hhead c (by rw [hqz]; rfl)))
      ((isBlankLine_cons c z').trans hblank)
  rw [← hz, afterLine_append hyline, Nat.add_right_comm] at hstep
  simpa [Reader.moved, Place.moved] using hstep
/-- A margin is the same margin at another place, if it does not end at the seam or both texts
behind the seam start with a token. -/
theorem Step.moved_margin {margins margins' : List Margin} {p q : Place} {m : Margin}
    {marks : List Token} (hmargin : Margin.read {} 0 p.line p.rest = some (m, q))
    (hblank : isBlankLine q.rest = false) (hsettle : m.settle margins = some (marks, margins'))
    (hu : p.rest = u ++ v) (hrest : q.rest = u' ++ v) (hend : u' = [] → StartsApart w) (k : Nat) :
    Step ⟨true, margins, p.moved k (u ++ w)⟩ ((marks.map (⟨·, q.line⟩ : Token → Lexeme)).map
      (·.down k)) (Reader.moved ⟨false, margins', q⟩ k (u' ++ w)) := by
  obtain ⟨x, hx, -, hawaited, hhead, hsame⟩ := Margin.read_eq_some hmargin
  obtain rfl : u = x ++ u' := by
    refine List.append_cancel_right (hu.symm.trans ?_)
    rw [hx, hrest, List.append_assoc]
  obtain ⟨c, z, hz, hc, hcblank⟩ : ∃ c z, u' ++ w = c :: z ∧ c ∉ marginChars ∧
      isBlankLine (c :: z) = false := by
    cases u' with
    | nil =>
        obtain ⟨c, z, rfl, hc, hcblank⟩ := (hend rfl).of_margin
        exact ⟨c, z, rfl, hc, hcblank⟩
    | cons c z =>
        rw [hrest] at hhead hblank
        rw [List.cons_append, isBlankLine_cons] at hblank
        exact ⟨c, z ++ w, rfl, hhead c rfl, (isBlankLine_cons c _).trans hblank⟩
  have hstep : Step ⟨true, margins, p.moved k (x ++ c :: z)⟩ (marks.map (⟨·, q.line + k⟩))
      ⟨false, margins', ⟨c :: z, q.line + k, []⟩⟩ :=
    .margin (q := ⟨c :: z, q.line + k, []⟩) (hsame k c z hc) hcblank (List.cons_ne_nil _ _)
      hsettle
  rw [← hz, ← List.append_assoc, ← hawaited] at hstep
  rw [List.map_map]
  exact hstep
/-- A comment is the same comment at another place, if a token does not start behind it. -/
theorem Step.moved_comment {margins : List Margin} {p : Place} {rest : List Char}
    (hp : p.rest = '#' :: rest) (hu : p.rest = u ++ v)
    (hrest : rest.dropWhile (· != '\n') = u' ++ v) (hend : u' = [] → StartsApart v) (k : Nat) :
    Step ⟨false, margins, p.moved k (u ++ w)⟩ []
      (Reader.moved ⟨false, margins, { p with rest := rest.dropWhile (· != '\n') }⟩ k
        (u' ++ w)) := by
  have hne : u' ≠ [] := by
    rintro rfl
    obtain ⟨c, z, rfl, hc, -⟩ := hend rfl
    rcases dropWhile_eq_nil_or (s := rest) with hnil | ⟨y, z', -, -, hline⟩
    · rw [hnil] at hrest
      cases hrest
    · rw [hline] at hrest
      exact hc ((List.cons.inj hrest).1 ▸ by decide)
  obtain ⟨d, u', rfl⟩ := List.exists_cons_of_ne_nil hne
  rcases dropWhile_eq_nil_or (s := rest) with hnil | ⟨y, z, rfl, hy, hline⟩
  · rw [hnil] at hrest
    cases hrest
  · rw [hline] at hrest
    obtain ⟨rfl, rfl⟩ := List.cons.inj hrest
    obtain rfl : u = '#' :: (y ++ '\n' :: u') := by
      refine List.append_cancel_right (hu.symm.trans (hp.trans ?_))
      simp
    have hstep : Step ⟨false, margins, p.moved k ('#' :: (y ++ '\n' :: (u' ++ w)))⟩ []
        ⟨false, margins, { p.moved k ('#' :: (y ++ '\n' :: (u' ++ w))) with
          rest := (y ++ '\n' :: (u' ++ w)).dropWhile (· != '\n') }⟩ := .comment rfl
    rw [dropWhile_line hy] at hstep
    simpa [Reader.moved, Place.moved] using hstep
/-- A step that ends in front of a seam or at it is the same step at another place, whatever is
behind the seam. At the seam a line starts, or a token. -/
theorem Step.moved (h : Step r ts r') (hr : r.place.rest = u ++ v) (hr' : r'.place.rest = u' ++ v)
    (hv : Seam u v) (hw : Seam u w)
    (hend : u' = [] → r'.atStart = true ∨ StartsApart v ∧ StartsApart w) (k : Nat) :
    Step (r.moved k (u ++ w)) (ts.map (·.down k)) (r'.moved k (u' ++ w)) := by
  cases h with
  | @blank margins p q m hmargin hblank =>
      exact .moved_blank hmargin hblank hr hr' hv k
  | @margin margins margins' p q m marks hmargin hblank hne hsettle =>
      exact .moved_margin hmargin hblank hsettle hr hr'
        (fun h => ((hend h).resolve_left Bool.false_ne_true).2) k
  | @newline margins p rest hp hawaited => 
      obtain rfl : rest = u' ++ v := hr'
      obtain rfl : u = '\n' :: u' := List.append_cancel_right (hr.symm.trans hp)
      have hstep : Step ⟨false, margins, p.moved k ('\n' :: u' ++ w)⟩ [⟨.newline, p.line + k⟩]
          ⟨true, margins, { p with rest := u' ++ w, line := p.line + k + 1 }⟩ :=
        .newline rfl hawaited
      rw [Nat.add_right_comm] at hstep
      exact hstep
  | @inside margins p rest hp hawaited =>
      obtain rfl : rest = u' ++ v := hr'
      obtain rfl : u = '\n' :: u' := List.append_cancel_right (hr.symm.trans hp)
      have hstep : Step ⟨false, margins, p.moved k ('\n' :: u' ++ w)⟩ []
          ⟨false, margins, { p with rest := u' ++ w, line := p.line + k + 1 }⟩ :=
        .inside rfl hawaited
      rw [Nat.add_right_comm] at hstep
      exact hstep
  | @joined margins p c rest hp => 
      have hrest : c :: rest = u' ++ v := hr'
      rw [hrest] at hp
      obtain rfl : u = '\\' :: '\n' :: u' := List.append_cancel_right (hr.symm.trans hp)
      obtain ⟨d, z, hz⟩ : ∃ d z, u' ++ w = d :: z := by
        cases u' with
        | nil =>
            obtain ⟨-, d, z, rfl, -⟩ := (hend rfl).resolve_left Bool.false_ne_true
            exact ⟨d, z, rfl⟩
        | cons d z => exact ⟨d, z ++ w, rfl⟩
      have hstep : Step ⟨false, margins, p.moved k ('\\' :: '\n' :: d :: z)⟩ []
          ⟨false, margins, { p with rest := d :: z, line := p.line + k + 1 }⟩ :=
        .joined rfl
      rw [← hz, Nat.add_right_comm] at hstep
      exact hstep
  | @gap margins p c rest hp hc =>
      obtain rfl : rest = u' ++ v := hr'
      obtain rfl : u = c :: u' := List.append_cancel_right (hr.symm.trans hp)
      exact .gap (p := p.moved k (c :: u' ++ w)) rfl hc
  | @comment margins p rest hp =>
      exact .moved_comment hp hr hr'
        (fun h => ((hend h).resolve_left Bool.false_ne_true).1) k
  | @token margins p q t ht => 
      have hu : u ≠ [] := by
        rintro rfl
        have hlt := (readToken_advances ht).2
        rw [show p.rest = v from hr, show q.rest = u' ++ v from hr', List.length_append] at hlt
        omega
      obtain ⟨rest, line, awaited⟩ := p
      obtain rfl : rest = u ++ v := hr
      exact .token (readToken_moved hv hw hu ht hr' k)

end

/-- A margin makes nothing but the beginning of a block or the ends of blocks. -/
theorem Margin.settle_marks {m : Margin} {margins margins' : List Margin} {marks : List Token}
    (h : m.settle margins = some (marks, margins')) : ∀ t ∈ marks, t = .indent ∨ t = .dedent := by
  unfold settle at h
  dsimp only at h
  intro t ht
  split at h
  · split at h
    · cases h
      cases ht
    · cases h
  · split at h
    · split at h
      · cases h
      · cases h
        exact .inl (List.mem_singleton.1 ht)
    · split at h
      · cases h
        exact .inr (List.eq_of_mem_replicate ht)
      · cases h

/-- A margin that makes nothing leaves the margins as they are. -/
theorem Margin.settle_nil {m : Margin} {margins margins' : List Margin}
    (h : m.settle margins = some ([], margins')) : margins' = margins := by
  unfold settle at h
  dsimp only at h
  split at h
  · split at h
    · cases h
      rfl
    · cases h
  · split at h
    · split at h <;> cases h
    · next hwide hinner =>
        split at h
        · cases margins with
          | nil => exact absurd (Nat.pos_of_ne_zero hwide) hinner
          | cons inner outer =>
              have hlt : m.wide < inner.wide := Nat.lt_of_le_of_ne (Nat.le_of_not_lt hinner) hwide
              have hle := (List.dropWhile_suffix (l := outer) (m.wide < ·.wide)).length_le
              rw [List.dropWhile_cons, if_pos (decide_eq_true hlt)] at h
              have hnone := congrArg List.length (Prod.mk.inj (Option.some.inj h)).1
              rw [List.length_replicate, List.length_cons, List.length_nil] at hnone
              omega
        · cases h

/-! ## Runs -/

/-- So many steps of the reader, with the tokens that they read. -/
inductive Steps : Nat → Reader → List Lexeme → Reader → Prop
  | refl (r : Reader) : Steps 0 r [] r
  | more {n : Nat} {r r' r'' : Reader} {ts us : List Lexeme} : Step r ts r' →
      Steps n r' us r'' → Steps (n + 1) r (ts ++ us) r''

variable {n m : Nat} {r'' : Reader}

theorem Steps.one (h : Step r ts r') : Steps 1 r ts r' := by
  have hone := Steps.more h (.refl r')
  rwa [List.append_nil] at hone

theorem Steps.trans (h : Steps n r ts r') (h' : Steps m r' us r'') :
    Steps (n + m) r (ts ++ us) r'' := by
  induction h with
  | refl r => rwa [Nat.zero_add]
  | more hstep _ ih =>
      rw [Nat.add_right_comm, List.append_assoc]
      exact .more hstep (ih h')

theorem Steps.read (h : Steps n r ts r') (fuel : Nat) :
    r.read (n + fuel) = (r'.read fuel).map (ts ++ ·) := by
  induction h with
  | refl r => simp
  | more hstep _ ih =>
      rw [Nat.add_right_comm, hstep.read, ih, Option.map_map]
      simp [Function.comp_def]

theorem Steps.of_zero (h : Steps 0 r ts r') : ts = [] ∧ r' = r := by
  cases h
  exact ⟨rfl, rfl⟩

/-- Of two runs from one place, one goes on where the other one stops. -/
theorem Steps.compare (h : Steps n r ts r') (h' : Steps m r us r'') :
    (∃ k vs, Steps k r' vs r'' ∧ us = ts ++ vs) ∨ ∃ k vs, Steps k r'' vs r' ∧ ts = us ++ vs := by
  induction h generalizing m us with
  | refl r => exact .inl ⟨m, us, h', rfl⟩
  | more hstep hsteps ih =>
      cases h' with
      | refl r => exact .inr ⟨_, _, .more hstep hsteps, rfl⟩
      | more hstep' hsteps' =>
          obtain ⟨rfl, rfl⟩ := hstep.unique hstep'
          rcases ih hsteps' with ⟨k, vs, hvs, rfl⟩ | ⟨k, vs, hvs, rfl⟩
          · exact .inl ⟨k, vs, hvs, (List.append_assoc _ _ _).symm⟩
          · exact .inr ⟨k, vs, hvs, (List.append_assoc _ _ _).symm⟩

theorem Steps.advances (h : Steps n r ts r') (hr : IsWhole r.place.rest) :
    r.place.Advances r'.place := by
  induction h with
  | refl r => exact .refl _
  | more hstep _ ih => exact (hstep.advances hr).trans (ih (hstep.whole hr))

/-- A run has at most two steps for each character, and one more if it begins with a line. -/
theorem Steps.length_le (h : Steps n r ts r') (hr : IsWhole r.place.rest) :
    n + 2 * r'.place.rest.length + r'.atStart.toNat ≤
      2 * r.place.rest.length + r.atStart.toNat := by
  induction h with
  | refl r => omega
  | @more n r r' r'' ts us hstep _ ih =>
      have hlen := hstep.rest_length hr
      have hmore := ih (hstep.whole hr)
      cases hstart : r.atStart <;> cases hstart' : r'.atStart <;>
        simp only [hstart, hstart', Bool.not_true, Bool.not_false, Bool.and_false, Bool.and_true,
          Bool.false_eq_true, if_true, if_false, Bool.toNat_true, Bool.toNat_false] at hlen hmore ⊢ <;>
        omega

section

variable {u u' v w : List Char}

/-- A run that ends in front of a seam or at it is the same run at another place, whatever is
behind the seam. -/
theorem Steps.moved (h : Steps n r ts r') (hwhole : IsWhole r.place.rest)
    (hr : r.place.rest = u ++ v) (hr' : r'.place.rest = u' ++ v) (hv : Seam u v) (hw : Seam u w)
    (hend : u' = [] → r'.atStart = true ∨ StartsApart v ∧ StartsApart w) (k : Nat) :
    Steps n (r.moved k (u ++ w)) (ts.map (·.down k)) (r'.moved k (u' ++ w)) := by
  induction h generalizing u with
  | refl r =>
      obtain rfl : u = u' := List.append_cancel_right (hr.symm.trans hr')
      exact .refl _
  | @more n r r' r'' ts us hstep hsteps ih =>
      have hwhole' := hstep.whole hwhole
      obtain ⟨x, hx⟩ := (hsteps.advances hwhole').suffix
      rw [hr', ← List.append_assoc] at hx
      obtain ⟨y, hy⟩ := (hstep.advances hwhole).suffix
      obtain rfl : u = y ++ (x ++ u') := by
        refine List.append_cancel_right (hr.symm.trans (hy.symm.trans ?_))
        rw [← hx]
        simp only [List.append_assoc]
      have hmore := ih hwhole' hx.symm hr' (hv.suffix ⟨y, rfl⟩) (hw.suffix ⟨y, rfl⟩) hend
      rw [List.map_append]
      refine .more (hstep.moved hr hx.symm hv hw (fun hnil => ?_) k) hmore
      -- at the seam nothing is left to read but the margin of a line
      obtain ⟨rfl, rfl⟩ := List.append_eq_nil_iff.1 hnil
      cases hstart : r'.atStart with
      | true => exact .inl rfl
      | false =>
          have hlen := hsteps.length_le hwhole'
          rw [← hx, hr', hstart] at hlen
          cases hsteps with
          | refl r => exact hstart ▸ hend rfl
          | more _ _ =>
              simp at hlen
              omega

end

/-- At the end there are only marks left. -/
theorem Ends.marks (h : Ends r ts) : ∀ t ∈ ts, t.token = .indent ∨ t.token = .dedent := by
  obtain ⟨-, m, q, marks, margins, -, -, hsettle, rfl⟩ := h
  intro t ht
  obtain ⟨mark, hmark, rfl⟩ := List.mem_map.1 ht
  exact Margin.settle_marks hsettle mark hmark

/-- At the end of whole lines nothing is left. -/
theorem Ends.of_whole (h : Ends r ts) (hr : IsWhole r.place.rest) : r.place.rest = [] ∧
    ∃ marks margins, Margin.settle {} r.margins = some (marks, margins) ∧
      ts = marks.map (⟨·, r.place.line⟩) := by
  obtain ⟨-, m, q, marks, margins, hmargin, hq, hsettle, rfl⟩ := h
  have hrest : r.place.rest = [] := by
    by_contra hne
    exact Margin.read_whole hmargin hr hne hq
  rw [hrest] at hmargin
  cases hmargin
  exact ⟨hrest, marks, margins, hsettle, rfl⟩

theorem Ends.read (h : Ends r ts) (fuel : Nat) : r.read (fuel + 1) = some ts := by
  obtain ⟨atStart, margins, p⟩ := r
  obtain ⟨rfl, m, q, marks, margins', hmargin, hq, hsettle, rfl⟩ := h
  have hblank : isBlankLine [] = false := rfl
  simp [Reader.read, readTokens, hmargin, hblank, hsettle, hq]

/-- A run to the end, with the marks that are left there. -/
def Reads (n : Nat) (r : Reader) (ts : List Lexeme) : Prop :=
  ∃ us r' marks, Steps n r us r' ∧ Ends r' marks ∧ ts = us ++ marks

/-- All tokens are read by a run to the end. -/
theorem Reader.exists_reads {fuel : Nat} (h : r.read fuel = some ts) : ∃ n, Reads n r ts := by
  induction fuel generalizing r ts with
  | zero => cases h
  | succ fuel ih =>
      rcases read_cases h with hends | ⟨us, r', vs, hstep, hvs, rfl⟩
      · exact ⟨0, [], r, ts, .refl r, hends, rfl⟩
      · obtain ⟨n, ws, r'', marks, hsteps, hends, rfl⟩ := ih hvs
        exact ⟨n + 1, us ++ ws, r'', marks, .more hstep hsteps, hends,
          (List.append_assoc _ _ _).symm⟩

theorem Reads.read (h : Reads n r ts) (fuel : Nat) : r.read (n + (fuel + 1)) = some ts := by
  obtain ⟨us, r', marks, hsteps, hends, rfl⟩ := h
  rw [hsteps.read, hends.read]
  rfl

theorem Reads.unique (h : Reads n r ts) (h' : Reads m r us) : ts = us := by
  have hts := h.read m
  have hus := h'.read n
  rw [show m + (n + 1) = n + (m + 1) by omega, hts] at hus
  exact Option.some.inj hus

/-- What is left behind the first steps of a run is a run, too. -/
theorem Reads.behind (h : Reads m r us) (h' : Steps n r ts r') :
    ∃ k vs, Reads k r' vs ∧ us = ts ++ vs := by
  have hread := h.read n
  rw [show m + (n + 1) = n + (m + 1) by omega, h'.read] at hread
  obtain ⟨vs, hvs, rfl⟩ := Option.map_eq_some_iff.1 hread
  obtain ⟨k, hk⟩ := Reader.exists_reads hvs
  exact ⟨k, vs, hk, rfl⟩

theorem Steps.reads (h : Steps n r ts r') (h' : Reads m r' us) : Reads (n + m) r (ts ++ us) := by
  obtain ⟨vs, r'', marks, hsteps, hends, rfl⟩ := h'
  exact ⟨ts ++ vs, r'', marks, h.trans hsteps, hends, (List.append_assoc _ _ _).symm⟩

/-- The tokens of whole lines are the same so many lines further down. -/
theorem Reads.moved (h : Reads n r ts) (hr : IsWhole r.place.rest) (k : Nat) :
    Reads n (r.moved k r.place.rest) (ts.map (·.down k)) := by
  obtain ⟨us, r', marks, hsteps, hends, rfl⟩ := h
  obtain ⟨hrest, ms, margins, hsettle, rfl⟩ :=
    hends.of_whole (hr.suffix (hsteps.advances hr).suffix)
  have hend : r'.place.rest = [] ++ ([] : List Char) := hrest
  have hseam : Seam r.place.rest [] := .lines hr
  have hmoved := hsteps.moved hr (List.append_nil _).symm hend hseam hseam
    (fun _ => .inl hends.atStart) k
  rw [List.append_nil] at hmoved
  refine ⟨_, _, ms.map (⟨·, r'.place.line + k⟩), hmoved, ⟨hends.atStart, {}, ⟨[], _, []⟩, ms,
    margins, ?_, rfl, hsettle, rfl⟩, ?_⟩
  · simp [Reader.moved, Place.moved, Margin.read]
  · rw [List.map_append, List.map_map]
    rfl

section

variable {s : List Char}

theorem Reads.tokens? (h : Reads n (.atLine s 1) ts) (hs : IsWhole s) : tokens? s = some ts := by
  have hread := h.read (2 * s.length + 1 - n)
  obtain ⟨us, r', marks, hsteps, -, -⟩ := h
  have hlen : n + 2 * r'.place.rest.length + r'.atStart.toNat ≤ 2 * s.length + 1 :=
    hsteps.length_le hs
  rwa [show n + (2 * s.length + 1 - n + 1) = 2 * s.length + 2 by omega] at hread

theorem exists_reads_of_tokens? (h : tokens? s = some ts) : ∃ n, Reads n (.atLine s 1) ts :=
  Reader.exists_reads h

end

/-! ## Lines of tokens -/

/-- A token ends at the latest on a line, and a line feed before it. -/
def Lexeme.EndsBy (t : Lexeme) (line : Nat) : Prop :=
  t.line ≤ line ∧ (t.token = .newline → t.line < line)

theorem Lexeme.EndsBy.mono {t : Lexeme} {a b : Nat} (h : t.EndsBy a) (hab : a ≤ b) : t.EndsBy b :=
  ⟨h.1.trans hab, fun ht => (h.2 ht).trans_le hab⟩

/-- Tokens between two lines, which come in the order of their lines. -/
structure InOrder (a : Nat) (ts : List Lexeme) (b : Nat) : Prop where
  le : a ≤ b
  starts : ∀ t ∈ ts, a ≤ t.line
  ends : ∀ t ∈ ts, t.EndsBy b
  sorted : ts.Pairwise fun t u => t.EndsBy u.line

variable {a b c : Nat}

theorem InOrder.nil (h : a ≤ b) : InOrder a [] b :=
  ⟨h, fun _ ht => absurd ht List.not_mem_nil, fun _ ht => absurd ht List.not_mem_nil, .nil⟩

theorem InOrder.append (hts : InOrder a ts b) (hus : InOrder b us c) : InOrder a (ts ++ us) c where
  le := hts.le.trans hus.le
  starts t ht := (List.mem_append.1 ht).elim (hts.starts t) fun ht => hts.le.trans (hus.starts t ht)
  ends t ht := (List.mem_append.1 ht).elim (fun ht => (hts.ends t ht).mono hus.le) (hus.ends t)
  sorted := List.pairwise_append.2 ⟨hts.sorted, hus.sorted, fun t ht u hu =>
    (hts.ends t ht).mono (hus.starts u hu)⟩

/-- Tokens on one line, none of which ends it. -/
theorem InOrder.line {line : Nat} (hab : a ≤ line) (hb : line ≤ b)
    (h : ∀ t ∈ ts, t.line = line ∧ t.token ≠ .newline) : InOrder a ts b where
  le := hab.trans hb
  starts t ht := (h t ht).1 ▸ hab
  ends t ht := ⟨(h t ht).1 ▸ hb, fun hline => absurd hline (h t ht).2⟩
  sorted := List.pairwise_of_forall_mem_list fun t ht u hu =>
    ⟨((h t ht).1.trans (h u hu).1.symm).le, fun hline => absurd hline (h t ht).2⟩

/-- A run that reads the end of a line comes to the start of the next one. -/
theorem Steps.exists_newline {line : Nat} (h : Steps n r ts r') (hr : IsWhole r.place.rest)
    (hline : ⟨.newline, line⟩ ∈ ts) :
    ∃ i j us vs margins rest, ts = us ++ vs ∧ Steps i r us ⟨true, margins, ⟨rest, line + 1, []⟩⟩ ∧
      Steps j ⟨true, margins, ⟨rest, line + 1, []⟩⟩ vs r' ∧ us ≠ [] ∧
      ∃ x, r.place.rest = x ++ '\n' :: rest := by
  induction h with
  | refl r => cases hline
  | @more n r r' r'' ts us hstep hsteps ih =>
      rcases List.mem_append.1 hline with hmem | hmem
      · cases hstep with
        | @margin margins margins' p q m marks _ _ _ hsettle =>
            obtain ⟨mark, hmark, heq⟩ := List.mem_map.1 hmem
            obtain ⟨rfl, -⟩ := Lexeme.mk.inj heq
            rcases Margin.settle_marks hsettle _ hmark with h | h <;> cases h
        | @newline margins p rest hp hawaited =>
            obtain ⟨-, rfl⟩ := Lexeme.mk.inj (List.mem_singleton.1 hmem)
            obtain ⟨s, line, awaited⟩ := p
            obtain rfl : awaited = [] := hawaited
            exact ⟨1, n, _, us, margins, rest, rfl, .one (.newline hp rfl), hsteps,
              List.cons_ne_nil _ _, [], hp⟩
        | token ht =>
            obtain ⟨rfl, -⟩ := Lexeme.mk.inj (List.mem_singleton.1 hmem)
            exact absurd rfl (readToken_not_layout ht).1
        | _ => cases hmem
      · obtain ⟨i, j, vs, ws, margins, rest, rfl, hfirst, hlast, hne, x, hx⟩ :=
          ih (hstep.whole hr) hmem
        obtain ⟨y, hy⟩ := (hstep.advances hr).suffix
        exact ⟨i + 1, j, ts ++ vs, ws, margins, rest, (List.append_assoc _ _ _).symm,
          .more hstep hfirst, hlast, List.append_ne_nil_of_right_ne_nil _ hne, y ++ x,
          by rw [List.append_assoc, ← hx, hy]⟩

theorem Step.inOrder (h : Step r ts r') (hr : IsWhole r.place.rest) :
    InOrder r.place.line ts r'.place.line := by
  have hle := (h.advances hr).line_le
  cases h with
  | blank _ _ => exact .nil hle
  | @margin margins margins' p q m marks hmargin _ _ hsettle =>
      refine .line hle (Nat.le_refl _) fun t ht => ?_
      obtain ⟨mark, hmark, rfl⟩ := List.mem_map.1 ht
      refine ⟨rfl, ?_⟩
      rcases Margin.settle_marks hsettle mark hmark with rfl | rfl <;> simp
  | newline hp hawaited =>
      refine ⟨hle, ?_, ?_, List.pairwise_singleton _ _⟩
      · simp
      · simp [Lexeme.EndsBy]
  | inside _ _ => exact .nil hle
  | joined _ => exact .nil hle
  | gap _ _ => exact .nil hle
  | comment _ => exact .nil hle
  | token ht => 
      refine .line hle (Nat.le_refl _) fun u hu => ?_
      rw [List.mem_singleton.1 hu]
      exact ⟨rfl, (readToken_not_layout ht).1⟩

theorem Steps.inOrder (h : Steps n r ts r') (hr : IsWhole r.place.rest) :
    InOrder r.place.line ts r'.place.line := by
  induction h with
  | refl r => exact .nil (Nat.le_refl _)
  | more hstep _ ih => exact (hstep.inOrder hr).append (ih (hstep.whole hr))

/-- Tokens of whole lines. -/
def AreWhole (ts : List Lexeme) : Prop := EndsIn (·.token = .newline) ts

theorem AreWhole.suffix (h : AreWhole ts) (hus : us <:+ ts) : AreWhole us := EndsIn.suffix h hus

theorem AreWhole.append_left (h : AreWhole us) (ts : List Lexeme) (hne : us ≠ []) :
    AreWhole (ts ++ us) := EndsIn.append_left h ts hne

theorem AreWhole.nil : AreWhole [] := by
  intro t ht
  cases ht

theorem Step.areWhole (h : Step r ts r') (hr' : r'.atStart = true) :
    AreWhole ts ∧ (ts = [] → r.atStart = true) := by
  cases h with
  | blank _ _ => exact ⟨.nil, fun _ => rfl⟩
  | newline _ _ =>
      refine ⟨?_, fun heq => absurd heq (List.cons_ne_nil _ _)⟩
      rintro t ⟨⟩
      rfl
  | _ => cases hr'

/-- Up to the start of a line whole lines of tokens are read. -/
theorem Steps.areWhole (h : Steps n r ts r') (hr' : r'.atStart = true) :
    AreWhole ts ∧ (ts = [] → r.atStart = true) := by
  induction h with
  | refl r => exact ⟨.nil, fun _ => hr'⟩
  | @more n r r' r'' ts us hstep _ ih =>
      obtain ⟨hwhole, hstart⟩ := ih hr'
      cases us with
      | nil =>
          rw [List.append_nil]
          exact hstep.areWhole (hstart rfl)
      | cons u us =>
          refine ⟨fun t ht => hwhole t ?_, by simp⟩
          rwa [List.getLast?_append, List.getLast?_eq_some_getLast (List.cons_ne_nil u us),
            Option.some_or, ← List.getLast?_eq_some_getLast] at ht

theorem InOrder.lt (h : InOrder a ts b) (hts : AreWhole ts) : ∀ t ∈ ts, t.line < b := by
  intro t ht
  obtain rfl | ⟨us, u, rfl⟩ := List.eq_nil_or_concat ts
  · cases ht
  · rw [List.concat_eq_append] at h hts ht
    have hu : u.token = .newline := hts u List.getLast?_concat
    have hub := (h.ends u (List.mem_append_right _ List.mem_cons_self)).2 hu
    rcases List.mem_append.1 ht with ht | ht
    · have htu := (List.pairwise_append.1 h.sorted).2.2 t ht u List.mem_cons_self
      exact htu.1.trans_lt hub
    · rwa [List.mem_singleton.1 ht]

end SecretScan.Script

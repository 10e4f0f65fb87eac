import Mathlib.Data.Bool.AllAny
import Mathlib.Data.List.Find
import SecretScan.Script.Lexer

/-!
# Tokens in front of a seam

A token is read without regard to what stands far behind it. Where a text ends in a character that
belongs to no longer token, or in a whole line, a seam is left: what is put behind the seam plays
no part in the tokens in front of it (`readToken_moved`), and neither do the numbers of the lines.
-/

namespace SecretScan.Script

/-! ## Whole lines -/

/-- The last one of a list, if there is any, is of some kind. -/
def EndsIn {α : Type} (P : α → Prop) (l : List α) : Prop := ∀ a, l.getLast? = some a → P a

theorem EndsIn.suffix {α : Type} {P : α → Prop} {l m : List α} (h : EndsIn P l) (hm : m <:+ l) :
    EndsIn P m := by
  obtain ⟨k, rfl⟩ := hm
  intro a ha
  exact h a (by rw [List.getLast?_append, ha, Option.some_or])

theorem EndsIn.append_left {α : Type} {P : α → Prop} {m : List α} (hm : EndsIn P m) (l : List α)
    (hne : m ≠ []) : EndsIn P (l ++ m) := by
  intro a ha
  rw [List.getLast?_append, List.getLast?_eq_some_getLast hne, Option.some_or] at ha
  exact hm a (by rw [List.getLast?_eq_some_getLast hne, ha])

theorem EndsIn.getLast {α : Type} {P : α → Prop} {l : List α} (h : EndsIn P l) (hl : l ≠ []) :
    P (l.getLast hl) := h _ (List.getLast?_eq_some_getLast hl)

/-- A text of whole lines. -/
def IsWhole (s : List Char) : Prop := EndsIn (· = '\n') s

section

variable {s t u w : List Char} {c : Char} {f : Char → Bool}

theorem IsWhole.suffix (h : IsWhole s) (ht : t <:+ s) : IsWhole t := EndsIn.suffix h ht

theorem IsWhole.newline_mem (h : IsWhole s) (hne : s ≠ []) : '\n' ∈ s := by
  have hlast := EndsIn.getLast h hne
  exact hlast ▸ List.getLast_mem hne

theorem takeWhile_before (hc : c ∈ s) (hf : f c = false) :
    (s ++ w).takeWhile f = s.takeWhile f := by
  induction s with
  | nil => cases hc
  | cons d s ih =>
      rw [List.cons_append, List.takeWhile_cons, List.takeWhile_cons]
      split
      · next hd =>
          rcases List.mem_cons.1 hc with rfl | hc
          · rw [hf] at hd
            cases hd
          · rw [ih hc]
      · rfl

/-- A prefix ends in front of a character that it does not hold. -/
theorem isPrefixOf_before (hc : c ∈ s ∨ w.head? = some c) (hu : c ∉ u) :
    u.isPrefixOf (s ++ w) = u.isPrefixOf s := by
  induction u generalizing s with
  | nil => rfl
  | cons d u ih =>
      obtain ⟨hd, hu⟩ := not_or.1 (mt List.mem_cons.2 hu)
      cases s with
      | nil =>
          obtain ⟨w, rfl⟩ := List.head?_eq_some_iff.1 (hc.resolve_left List.not_mem_nil)
          simp [List.isPrefixOf, Ne.symm hd]
      | cons e s =>
          rw [List.cons_append, List.isPrefixOf, List.isPrefixOf]
          by_cases hde : d = e
          · subst hde
            rw [ih ((or_congr_left (List.mem_cons.trans (or_iff_right hd))).1 hc) hu]
          · rw [beq_eq_false_iff_ne.2 hde, Bool.false_and, Bool.false_and]

theorem count_eq_zero_of_all (hs : ∀ c ∈ s, f c = true) (hf : f '\n' = false) :
    s.count '\n' = 0 := by
  rw [List.count_eq_zero]
  intro hmem
  rw [hs _ hmem] at hf
  cases hf

end

/-! ## Places -/

namespace Place

/-- The same place so many lines further down, where another text stands. -/
def moved (p : Place) (k : Nat) (s : List Char) : Place := { p with rest := s, line := p.line + k }

/-- From one place on a text was read up to another one. -/
structure Advances (p q : Place) : Prop where
  suffix : q.rest <:+ p.rest
  line : q.line + q.rest.count '\n' = p.line + p.rest.count '\n'

variable {p q r : Place} {s : List Char}

theorem Advances.refl (p : Place) : p.Advances p := ⟨List.suffix_rfl, rfl⟩

theorem Advances.trans (h : p.Advances q) (h' : q.Advances r) : p.Advances r :=
  ⟨h'.suffix.trans h.suffix, h'.line.trans h.line⟩

theorem Advances.line_le (h : p.Advances q) : p.line ≤ q.line := by
  have hline := h.line
  have hcount := h.suffix.sublist.count_le '\n'
  omega

theorem advances_append {u : List Char} (hrest : p.rest = u ++ q.rest)
    (hline : q.line = p.line + u.count '\n') : p.Advances q := by
  refine ⟨⟨u, hrest.symm⟩, ?_⟩
  rw [hrest, List.count_append, hline, Nat.add_assoc]

end Place

/-! ## Margins -/

/-- The characters that a margin is made of. -/
def marginChars : List Char := [' ', '\t', '\x0c', '\\']

/-- A margin ends at the first character that is none of a margin, whatever follows there. -/
theorem Margin.read_eq_some {m m' : Margin} {fixed line : Nat} {s : List Char} {q : Place}
    (h : Margin.read m fixed line s = some (m', q)) :
    ∃ u, s = u ++ q.rest ∧ q.line = line + u.count '\n' ∧ q.awaited = [] ∧
      (∀ c ∈ q.rest.head?, c ∉ marginChars) ∧
      ∀ k c w, c ∉ marginChars → Margin.read m fixed (line + k) (u ++ c :: w) =
        some (m', ⟨c :: w, q.line + k, []⟩) := by
  have hplain : ∀ {m : Margin} {fixed line : Nat} {c : Char} (w : List Char), c ∉ marginChars →
      Margin.read m fixed line (c :: w) =
        some (if fixed = 0 then m else ⟨fixed, fixed⟩, ⟨c :: w, line, []⟩) := by
    intro m fixed line c w hc
    simp only [marginChars, List.mem_cons, List.not_mem_nil, or_false, not_or] at hc
    rw [Margin.read]
    all_goals
      intros
      simp_all
  fun_induction Margin.read m fixed line s with
  | case1 m fixed line c rest ih =>
      obtain ⟨u, hs, hline, hawaited, hhead, hmoved⟩ := ih h
      refine ⟨'\\' :: '\n' :: u, by rw [hs]; rfl, ?_, hawaited, hhead, fun k d w hd => ?_⟩
      · rw [hline, List.count_cons_of_ne (by decide), List.count_cons_self]
        omega
      · obtain ⟨e, v, hv⟩ : ∃ e v, u ++ d :: w = e :: v :=
          List.exists_cons_of_ne_nil (List.append_ne_nil_of_right_ne_nil _ (List.cons_ne_nil _ _))
        have hmoved := hmoved k d w hd
        rw [List.cons_append, List.cons_append, hv, Margin.read, Nat.add_right_comm, ← hv]
        exact hmoved
  | case2 => cases h
  | case3 m fixed line rest ih =>
      obtain ⟨u, hs, hline, hawaited, hhead, hmoved⟩ := ih h
      exact ⟨' ' :: u, by rw [hs]; rfl, hline, hawaited, hhead, hmoved⟩
  | case4 m fixed line rest ih =>
      obtain ⟨u, hs, hline, hawaited, hhead, hmoved⟩ := ih h
      exact ⟨'\t' :: u, by rw [hs]; rfl, hline, hawaited, hhead, hmoved⟩
  | case5 m fixed line rest ih =>
      obtain ⟨u, hs, hline, hawaited, hhead, hmoved⟩ := ih h
      exact ⟨'\x0c' :: u, by rw [hs]; rfl, hline, hawaited, hhead, hmoved⟩
  | case6 m fixed line rest h1 h2 h3 h4 h5 =>
      cases h
      refine ⟨[], rfl, rfl, rfl, ?_, fun k c w hc => hplain w hc⟩
      intro c hc
      obtain ⟨rest, rfl⟩ := List.head?_eq_some_iff.1 hc
      simp only [marginChars, List.mem_cons, List.not_mem_nil, or_false, not_or]
      exact ⟨fun heq => h3 rest (by rw [heq]), fun heq => h4 rest (by rw [heq]),
        fun heq => h5 rest (by rw [heq]), fun heq => h2 rest (by rw [heq])⟩

theorem Margin.read_advances {m m' : Margin} {fixed line : Nat} {s : List Char} {q : Place}
    (awaited : List Char) (h : Margin.read m fixed line s = some (m', q)) :
    Place.Advances ⟨s, line, awaited⟩ q := by
  obtain ⟨u, hs, hline, -⟩ := Margin.read_eq_some h
  exact Place.advances_append hs hline

/-- The margin of whole lines ends in front of a line feed at the latest. -/
theorem Margin.read_whole {m m' : Margin} {fixed line : Nat} {s : List Char} {q : Place}
    (h : Margin.read m fixed line s = some (m', q)) (hs : IsWhole s) (hne : s ≠ []) :
    q.rest ≠ [] := by
  have hrest : ∀ {c : Char} {rest : List Char}, IsWhole (c :: rest) → c ≠ '\n' →
      IsWhole rest ∧ rest ≠ [] := by
    intro c rest hs hc
    refine ⟨hs.suffix (List.suffix_cons _ _), ?_⟩
    rintro rfl
    exact hc (hs c rfl)
  fun_induction Margin.read m fixed line s with
  | case1 m fixed line c rest ih =>
      exact ih h (hs.suffix ⟨['\\', '\n'], rfl⟩) (List.cons_ne_nil _ _)
  | case2 => cases h
  | case3 m fixed line rest ih =>
      exact (hrest hs (by decide)).elim (ih h)
  | case4 m fixed line rest ih =>
      exact (hrest hs (by decide)).elim (ih h)
  | case5 m fixed line rest ih =>
      exact (hrest hs (by decide)).elim (ih h)
  | case6 m fixed line rest =>
      cases h
      exact hne

/-! ## Texts -/

namespace TextLiteral

variable {quote : Char} {s body rest : List Char}

/-- What follows a text between single quotes plays no part in it. -/
theorem readLine_eq_some (hq : quote ≠ '\\') (h : readLine quote s = some (body, rest)) :
    s = body ++ quote :: rest ∧
      ∀ w, readLine quote (body ++ quote :: w) = some (body, w) := by
  fun_induction readLine quote s generalizing body rest with
  | case1 c more ih =>
      obtain ⟨⟨body, rest⟩, hmore, ⟨⟩⟩ := Option.map_eq_some_iff.1 h
      obtain ⟨rfl, hw⟩ := ih hmore
      refine ⟨rfl, fun w => ?_⟩
      rw [List.cons_append, List.cons_append, readLine, hw]
      rfl
  | case2 c more _ hc =>
      cases h
      obtain rfl : c = quote := beq_iff_eq.1 hc
      refine ⟨rfl, fun w => ?_⟩
      rw [List.nil_append, readLine, if_pos hc]
      exact fun _ _ heq => absurd heq hq
  | case3 => cases h
  | case4 c more hplain hc hline ih =>
      obtain ⟨⟨body, rest⟩, hmore, ⟨⟩⟩ := Option.map_eq_some_iff.1 h
      obtain ⟨hs, hw⟩ := ih hmore
      refine ⟨by rw [hs]; rfl, fun w => ?_⟩
      rw [List.cons_append, readLine, if_neg hc, if_neg hline, hw]
      · rfl
      · rintro d rest rfl -
        cases more with
        | nil => cases hmore
        | cons d more => exact hplain d more rfl rfl
  | case5 => cases h

/-- What follows a text between triple quotes plays no part in it. -/
theorem readBlock_eq_some (hq : quote ≠ '\\') (h : readBlock quote s = some (body, rest)) :
    s = body ++ quote :: quote :: quote :: rest ∧
      ∀ w, readBlock quote (body ++ quote :: quote :: quote :: w) = some (body, w) := by
  fun_induction readBlock quote s generalizing body rest with
  | case1 c more ih =>
      obtain ⟨⟨body, rest⟩, hmore, ⟨⟩⟩ := Option.map_eq_some_iff.1 h
      obtain ⟨rfl, hw⟩ := ih hmore
      refine ⟨rfl, fun w => ?_⟩
      rw [List.cons_append, List.cons_append, readBlock, hw]
      rfl
  | case2 c more _ hend =>
      cases h
      obtain ⟨hc, hquotes⟩ := Bool.and_eq_true_iff.1 hend
      obtain rfl : c = quote := beq_iff_eq.1 hc
      obtain ⟨rest, rfl⟩ := List.isPrefixOf_iff_prefix.1 hquotes
      refine ⟨rfl, fun w => ?_⟩
      rw [List.nil_append, readBlock, if_pos (by simp)]
      · rfl
      · exact fun _ _ heq => absurd heq hq
  | case3 c more hplain hend ih =>
      obtain ⟨⟨body, rest⟩, hmore, ⟨⟩⟩ := Option.map_eq_some_iff.1 h
      obtain ⟨hs, hw⟩ := ih hmore
      refine ⟨by rw [hs]; rfl, fun w => ?_⟩
      have hquotes : [quote, quote].isPrefixOf (body ++ quote :: quote :: quote :: w) =
          [quote, quote].isPrefixOf more := by
        rw [hs]
        cases body with
        | nil => rfl
        | cons b body => cases body <;> rfl
      rw [List.cons_append, readBlock, hquotes, if_neg hend, hw]
      · rfl
      · rintro d rest rfl -
        cases more with
        | nil => cases hmore
        | cons d more => exact hplain d more rfl rfl
  | case4 => cases h

/-- The body of a text behind its first quote, and what follows. -/
def readBody (quote : Char) (s : List Char) : Option (List Char × List Char) :=
  if [quote, quote].isPrefixOf s then readBlock quote (s.drop 2) else readLine quote s

theorem readBody_eq_some (hq : quote ≠ '\\') (h : readBody quote s = some (body, rest)) :
    ∃ front back, s = front ++ (body ++ (back ++ rest)) ∧ (∀ c ∈ front ++ back, c = quote) ∧
      back ≠ [] ∧ ∀ w, w.head? = rest.head? →
        readBody quote (front ++ (body ++ (back ++ w))) = some (body, w) := by
  unfold readBody at h
  split at h
  · next hquotes =>
      obtain ⟨more, rfl⟩ := List.isPrefixOf_iff_prefix.1 hquotes
      obtain ⟨hmore, hw⟩ := readBlock_eq_some hq h
      refine ⟨[quote, quote], [quote, quote, quote], congrArg (quote :: quote :: ·) hmore,
        by simp, by simp, fun w _ => ?_⟩
      rw [readBody, if_pos (List.isPrefixOf_iff_prefix.2 (List.prefix_append _ _))]
      exact hw w
  · next hquotes =>
      obtain ⟨rfl, hw⟩ := readLine_eq_some hq h
      refine ⟨[], [quote], rfl, by simp, by simp, fun w hhead => ?_⟩
      rw [readBody, if_neg]
      · exact hw w
      · -- whether the quotes are triple ones shows at most one character behind an empty body
        refine fun hpre => hquotes ?_
        rw [← hpre]
        cases body with
        | nil =>
            cases w with
            | nil =>
                cases rest with
                | nil => rfl
                | cons c rest => cases hhead
            | cons d w =>
                obtain ⟨rest, rfl⟩ := List.head?_eq_some_iff.1 hhead.symm
                rfl
        | cons b body => cases body <;> rfl

/-- Whether a text starts shows at the first character that is no letter. -/
theorem read?_letters {letters more : List Char} (hletters : ∀ c ∈ letters, c.isAlpha = true)
    (hquote : quote.isAlpha = false) :
    read? (letters ++ quote :: more) =
      (marks.lookup (String.ofList (letters.map Char.toLower))).bind fun (bytes, raw, formatted) =>
        if quote == '"' || quote == '\'' then
          some ((readBody quote more).map fun (body, rest) => (⟨bytes, raw, formatted, body⟩, rest))
        else none := by
  have htake : (letters ++ quote :: more).takeWhile Char.isAlpha = letters := by
    rw [List.takeWhile_append_of_pos hletters, List.takeWhile_cons_of_neg (by simp [hquote]),
      List.append_nil]
  rw [read?, htake, List.drop_left]
  cases marks.lookup (String.ofList (letters.map Char.toLower)) <;> rfl

theorem isQuote_plain (h : (quote == '"' || quote == '\'') = true) :
    quote ≠ '\\' ∧ quote ≠ '\n' ∧ quote.isAlpha = false := by
  rcases Bool.or_eq_true_iff.1 h with h | h <;> rw [beq_iff_eq.1 h] <;> decide

/-- A text that was read ends in a quote, and is read in front of everything else that begins in
the same way. -/
theorem read?_eq_some {l : TextLiteral} (h : read? s = some (some (l, rest))) :
    ∃ u quote, s = u ++ quote :: rest ∧ (quote == '"' || quote == '\'') = true ∧
      (u ++ [quote]).count '\n' = l.body.count '\n' ∧
      ∀ w, w.head? = rest.head? → read? (u ++ quote :: w) = some (some (l, w)) := by
  obtain ⟨letters, quote, more, rfl, hletters, hquote⟩ :
      ∃ letters quote more, s = letters ++ quote :: more ∧
        (∀ c ∈ letters, c.isAlpha = true) ∧ (quote == '"' || quote == '\'') = true := by
    have hs := List.prefix_iff_eq_append.1 (List.takeWhile_prefix (l := s) Char.isAlpha)
    unfold read? at h
    dsimp only at h
    split at h
    · next quote more _ hdrop =>
        split at h
        · next hquote =>
            exact ⟨_, quote, more, by rw [← hdrop, hs], List.all_eq_true.1 List.all_takeWhile, hquote⟩
        · cases h
    · cases h
  obtain ⟨hescape, hline, halpha⟩ := isQuote_plain hquote
  rw [read?_letters hletters halpha] at h
  obtain ⟨⟨bytes, raw, formatted⟩, hmark, h⟩ := Option.bind_eq_some_iff.1 h
  dsimp only at h
  rw [if_pos hquote] at h
  obtain ⟨⟨body, rest⟩, hbody, ⟨⟩⟩ := Option.map_eq_some_iff.1 (Option.some.inj h)
  obtain ⟨front, back, rfl, hquotes, hback, hw⟩ := readBody_eq_some hescape hbody
  obtain ⟨back, b, rfl⟩ := (List.eq_nil_or_concat back).resolve_left hback
  rw [List.concat_eq_append] at hquotes hw
  obtain rfl : b = quote := hquotes b (by simp)
  have hplain : ∀ u : List Char, (∀ c ∈ u, c = b) → u.count '\n' = 0 := fun u hu =>
    List.count_eq_zero.2 fun hmem => hline (hu _ hmem).symm
  refine ⟨letters ++ b :: (front ++ (body ++ back)), b, by simp, hquote, ?_, fun w hhead => ?_⟩
  · have hletters := count_eq_zero_of_all hletters (by decide)
    have hfront := hplain front fun c hc => hquotes c (by simp [hc])
    have hback := hplain back fun c hc => hquotes c (by simp [hc])
    simp only [List.count_append, List.count_cons, List.count_nil, hletters, hfront, hback,
      beq_eq_false_iff_ne.2 hline]
    simp
  · have hread : read? (letters ++ b :: (front ++ (body ++ (back ++ [b] ++ w)))) =
        some (some (⟨bytes, raw, formatted, body⟩, w)) := by
      rw [read?_letters hletters halpha, hmark, Option.bind_some]
      dsimp only
      rw [if_pos hquote, hw w hhead]
      rfl
    simpa using hread

end TextLiteral

/-! ## Numbers -/

namespace Number

variable {f : Char → Bool} {s r : List Char}

theorem afterDigits_suffix (h : afterDigits f s = some r) : r <:+ s := by
  fun_induction afterDigits f s with
  | case1 d rest hd ih => exact ((ih h).trans (List.suffix_cons d rest)).trans (List.suffix_cons _ _)
  | case2 => cases h
  | case3 => cases h
  | case4 c rest _ _ hc ih => exact (ih h).trans (List.suffix_cons c rest)
  | case5 =>
      cases h
      exact List.suffix_rfl
  | case6 =>
      cases h
      exact List.suffix_rfl

theorem stop_suffix (h : stop s = some r) : r <:+ s := by
  unfold stop at h
  split at h
  · cases h
    exact List.suffix_rfl
  · cases h

theorem afterUnit_suffix (h : afterUnit s = some r) : r <:+ s := by
  unfold afterUnit at h
  split at h
  · exact (stop_suffix h).trans (List.suffix_cons _ _)
  · exact (stop_suffix h).trans (List.suffix_cons _ _)
  · exact stop_suffix h

theorem bind_suffix {x : Option (List Char)} {g : List Char → Option (List Char)}
    (hx : ∀ r, x = some r → r <:+ s) (hg : ∀ {s r}, g s = some r → r <:+ s)
    (h : x.bind g = some r) : r <:+ s := by
  obtain ⟨mid, hmid, h⟩ := Option.bind_eq_some_iff.1 h
  exact (hg h).trans (hx mid hmid)

theorem afterExponent_suffix (h : afterExponent s = some r) : r <:+ s := by
  have hdigits : ∀ {s r}, ((afterDigits Char.isDigit s).bind afterUnit) = some r → r <:+ s :=
    bind_suffix (fun _ => afterDigits_suffix) afterUnit_suffix
  unfold afterExponent at h
  split at h
  · cases h
    exact List.suffix_rfl
  · split at h
    · split at h
      · split at h
        · exact (hdigits h).trans ⟨[_, _], rfl⟩
        · split at h
          · split at h
            · split at h
              · exact (hdigits h).trans ⟨[_, _, _], rfl⟩
              · cases h
            · cases h
          · exact stop_suffix h
      · cases h
    · exact afterUnit_suffix h

theorem afterPoint_suffix (h : afterPoint s = some r) : r <:+ s := by
  unfold afterPoint at h
  split at h
  · split at h
    · exact (bind_suffix (fun _ => afterDigits_suffix) afterExponent_suffix h).trans
        (List.suffix_cons _ _)
    · exact afterExponent_suffix h
  · cases h
    exact List.suffix_rfl

theorem afterMarked_suffix (h : afterMarked f s = some r) : r <:+ s := by
  unfold afterMarked at h
  dsimp only at h
  split at h
  · next d rest hdigits =>
      have hsuffix : d :: rest <:+ s := by
        split at hdigits
        · exact hdigits ▸ List.suffix_cons _ _
        · exact hdigits ▸ List.suffix_rfl
      split at h
      · have hrest := bind_suffix (fun _ => afterDigits_suffix) stop_suffix h
        exact hrest.trans ((List.suffix_cons _ _).trans hsuffix)
      · cases h
  · cases h

/-- A number that starts with a digit or a point goes beyond it. -/
theorem afterDecimal_suffix {c : Char} (hc : c.isDigit = true ∨ c = '.')
    (h : afterDecimal (c :: s) = some r) : r <:+ s := by
  unfold afterDecimal at h
  split at h
  · next rest heq =>
      obtain ⟨rfl, rfl⟩ := List.cons.inj heq
      exact afterPoint_suffix h
  · next hpoint =>
      have hdigit : c.isDigit = true := hc.resolve_right fun hc => hpoint s (by rw [hc])
      have hdigits : ∀ {mid}, afterDigits Char.isDigit (c :: s) = some mid → mid <:+ s := by
        intro mid hmid
        rw [afterDigits.eq_def] at hmid
        split at hmid
        · next heq =>
            obtain ⟨rfl, -⟩ := List.cons.inj heq
            cases hdigit
        · next heq =>
            obtain ⟨rfl, -⟩ := List.cons.inj heq
            cases hdigit
        · next heq =>
            obtain ⟨rfl, rfl⟩ := List.cons.inj heq
            rw [if_pos hdigit] at hmid
            exact afterDigits_suffix hmid
        · next heq => cases heq
      split at h
      · next rest hrest =>
          exact ((afterPoint_suffix h).trans (List.suffix_cons _ _)).trans (hdigits hrest)
      · next d rest _ hrest =>
          refine List.IsSuffix.trans ?_ (hdigits hrest)
          split at h
          · exact afterExponent_suffix h
          · split at h
            · exact afterUnit_suffix h
            · split at h
              · cases h
              · exact stop_suffix h
      · split at h
        · cases h
        · cases h
          exact List.nil_suffix
      · cases h

/-- A number that starts with a digit or a point holds this character. -/
theorem after_suffix {c : Char} (hc : c.isDigit = true ∨ c = '.')
    (h : after (c :: s) = some r) : r <:+ s := by
  unfold after at h
  split at h
  · next m rest heq =>
      obtain ⟨rfl, rfl⟩ := List.cons.inj heq
      split at h
      · exact (afterMarked_suffix h).trans (List.suffix_cons _ _)
      · split at h
        · exact (afterMarked_suffix h).trans (List.suffix_cons _ _)
        · split at h
          · exact (afterMarked_suffix h).trans (List.suffix_cons _ _)
          · exact afterDecimal_suffix hc h
  · exact afterDecimal_suffix hc h

end Number

/-! ## Seams -/

/-- The characters that no token starts with. -/
def layout : List Char := ['\n', '\\', ' ', '\t', '\x0c', '#']

/-- The characters behind which a token may go on are others. -/
def IsFree (c : Char) : Prop :=
  joins c = false ∧ c ∉ ['.', '+', '-', '"', '\'', '\\']

/-- A text starts with a token, and not with a part of an operator. -/
def StartsApart (s : List Char) : Prop :=
  ∃ c rest, s = c :: rest ∧ c ∉ layout ∧ ∀ op ∈ operators, c ∉ op

/-- A place between two texts that no token reaches across. -/
inductive Seam (u v : List Char) : Prop
  | lines : IsWhole u → Seam u v
  | apart : EndsIn IsFree u → StartsApart v → Seam u v

section Seams

variable {u u' v w : List Char} {c : Char}

theorem IsWhole.free (h : IsWhole u) : EndsIn IsFree u := by
  intro c hc
  rw [h c hc]
  exact ⟨by decide, by decide⟩

theorem Seam.free (h : Seam u v) : EndsIn IsFree u := by
  cases h with
  | lines h => exact h.free
  | apart h _ => exact h

theorem Seam.suffix (h : Seam u v) (hu : u' <:+ u) : Seam u' v := by
  cases h with
  | lines h => exact .lines (h.suffix hu)
  | apart h hv => exact .apart (h.suffix hu) hv

theorem Seam.ne_quote (h : Seam (u ++ [c]) v) : (c == '"' || c == '\'') = false := by
  have hfree := (h.free c List.getLast?_concat).2
  simp only [List.mem_cons, List.not_mem_nil, or_false, not_or] at hfree
  simp [hfree]

theorem newline_notMem_operator {s : List Char} (h : s ∈ operators) : '\n' ∉ s :=
  (List.all_iff_forall_prop (p := fun s => '\n' ∉ s)).1 (by decide) s h

/-- Whether an operator starts in front of a seam does not depend on what is behind it. -/
theorem Seam.isPrefixOf (h : Seam u v) (hu : u ≠ []) {op : List Char} (hop : op ∈ operators) :
    op.isPrefixOf (u ++ v) = op.isPrefixOf u := by
  cases h with
  | lines h => exact isPrefixOf_before (.inl (h.newline_mem hu)) (newline_notMem_operator hop)
  | apart _ hv =>
      obtain ⟨c, rest, rfl, -, hc⟩ := hv
      exact isPrefixOf_before (.inr rfl) (hc op hop)

/-- Some character in front of a seam ends a run that a free one does not belong to. -/
theorem Seam.exists_stop (h : Seam u v) (hu : u ≠ []) {f : Char → Bool}
    (hf : ∀ c, IsFree c → f c = false) : ∃ c ∈ u, f c = false :=
  ⟨_, List.getLast_mem hu, hf _ (EndsIn.getLast h.free hu)⟩

end Seams

/-! ## Single tokens -/

section Tokens

variable {p q : Place} {t : Token} {u u' v w : List Char} {line k : Nat} {awaited : List Char}

/-- What is left behind the first characters of a text that ends at a seam. -/
theorem drop_append_cancel {s : List Char} (hs : s.length ≤ u.length)
    (h : (u ++ v).drop s.length = u' ++ v) : u.drop s.length = u' := by
  rw [List.drop_append_of_le_length hs] at h
  exact List.append_cancel_right h

theorem isFree_not_reach {c : Char} (h : IsFree c) :
    (joins c || c == '.' || c == '+' || c == '-') = false := by
  have hc := h.2
  simp only [List.mem_cons, List.not_mem_nil, or_false, not_or] at hc
  simp [h.1, hc]

theorem isFree_not_alpha {c : Char} (h : IsFree c) : c.isAlpha = false := by
  have hc := h.1
  simp only [joins, Char.isAlphanum, Bool.or_eq_false_iff] at hc
  exact hc.1.1.1

theorem readName_moved (hv : Seam u v) (hu : u ≠ [])
    (h : readName ⟨u ++ v, line, awaited⟩ = some (t, q)) (hq : q.rest = u' ++ v) :
    readName ⟨u ++ w, line + k, awaited⟩ = some (t, q.moved k (u' ++ w)) := by
  obtain ⟨c, hc, hjoins⟩ := hv.exists_stop hu fun _ h => h.1
  have hlen := (List.takeWhile_prefix (l := u) joins).length_le
  unfold readName at h ⊢
  dsimp only [Place.skip] at h ⊢
  rw [takeWhile_before hc hjoins] at h ⊢
  rw [List.drop_append_of_le_length hlen]
  split at h
  · next hword =>
      obtain ⟨rfl, rfl⟩ := Prod.mk.inj (Option.some.inj h)
      rw [if_pos hword, drop_append_cancel hlen hq]
      rfl
  · next hword =>
      rw [if_neg hword]
      split at h
      · next hname =>
          obtain ⟨rfl, rfl⟩ := Prod.mk.inj (Option.some.inj h)
          rw [if_pos hname, drop_append_cancel hlen hq]
          rfl
      · cases h

theorem readNumber_moved (hv : Seam u v) (hu : u ≠ [])
    (h : readNumber ⟨u ++ v, line, awaited⟩ = some (t, q)) (hq : q.rest = u' ++ v) :
    readNumber ⟨u ++ w, line + k, awaited⟩ = some (t, q.moved k (u' ++ w)) := by
  obtain ⟨c, hc, hreach⟩ := hv.exists_stop hu fun _ => isFree_not_reach
  unfold readNumber at h ⊢
  dsimp only [Place.skip] at h ⊢
  have hfront := List.takeWhile_prefix (l := u) fun c => joins c || c == '.' || c == '+' || c == '-'
  rw [takeWhile_before hc hreach] at h ⊢
  generalize u.takeWhile _ = reach at h hfront ⊢
  obtain ⟨rest, hrest, hq'⟩ := Option.map_eq_some_iff.1 h
  obtain ⟨rfl, rfl⟩ := Prod.mk.inj hq'
  have hlen : (reach.take (reach.length - rest.length)).length ≤ u.length :=
    ((List.take_prefix _ _).trans hfront).length_le
  rw [hrest, Option.map_some, List.drop_append_of_le_length hlen, drop_append_cancel hlen hq]
  rfl

theorem find_operator (h : operators.find? (·.isPrefixOf p.rest) = some u) :
    u <+: p.rest ∧ '\n' ∉ u ∧ ∃ c rest, u = c :: rest ∧ c ∉ layout := by
  have hall : ∀ s ∈ operators, '\n' ∉ s ∧ s.head?.any (· ∉ layout) = true :=
    List.all_iff_forall_prop.1 (by decide)
  have hfront := List.find?_some h
  obtain ⟨hline, hhead⟩ := hall u (List.mem_of_find?_eq_some h)
  cases u with
  | nil => cases hhead
  | cons c rest =>
      exact ⟨List.isPrefixOf_iff_prefix.1 hfront, hline, c, rest, rfl, of_decide_eq_true hhead⟩

theorem readOperator_moved (hv : Seam u v) (hw : Seam u w) (hu : u ≠ [])
    (h : readOperator ⟨u ++ v, line, awaited⟩ = some (t, q)) (hq : q.rest = u' ++ v) :
    readOperator ⟨u ++ w, line + k, awaited⟩ = some (t, q.moved k (u' ++ w)) := by
  have hfind : ∀ {w}, Seam u w → operators.find? (·.isPrefixOf (u ++ w)) =
      operators.find? (·.isPrefixOf u) := fun hw =>
    List.find?_congr fun s hs => hw.isPrefixOf hu hs
  unfold readOperator at h ⊢
  dsimp only [Place.skip] at h ⊢
  rw [hfind hv] at h
  rw [hfind hw]
  obtain ⟨s, hs, h⟩ := Option.bind_eq_some_iff.1 h
  obtain ⟨awaited', hawaited, h⟩ := Option.bind_eq_some_iff.1 h
  obtain ⟨rfl, rfl⟩ := Prod.mk.inj (Option.some.inj h)
  have hlen := (find_operator (p := ⟨u, line, []⟩) hs).1.length_le
  simp only [hs, hawaited, Option.bind_eq_bind, Option.bind_some,
    List.drop_append_of_le_length hlen, drop_append_cancel hlen hq]
  rfl

/-- Whether a text starts in front of a seam does not depend on what is behind it. -/
theorem read?_none_moved (hv : Seam u v) (hw : Seam u w) (hu : u ≠ [])
    (h : TextLiteral.read? (u ++ v) = none) : TextLiteral.read? (u ++ w) = none := by
  obtain ⟨letters, c, more, rfl, hletters, hc⟩ : ∃ letters c more, u = letters ++ c :: more ∧
      (∀ d ∈ letters, d.isAlpha = true) ∧ c.isAlpha = false := by
    obtain ⟨c, hc, halpha⟩ := hv.exists_stop hu fun _ => isFree_not_alpha
    have hne : u.dropWhile Char.isAlpha ≠ [] := by
      intro hnil
      have hall := List.takeWhile_append_dropWhile (p := Char.isAlpha) (l := u)
      rw [hnil, List.append_nil] at hall
      have htrue : c.isAlpha = true := List.all_eq_true.1 List.all_takeWhile c (hall.symm ▸ hc)
      rw [halpha] at htrue
      cases htrue
    obtain ⟨d, more, hd⟩ := List.exists_cons_of_ne_nil hne
    refine ⟨u.takeWhile Char.isAlpha, d, more, by rw [← hd, List.takeWhile_append_dropWhile],
      List.all_eq_true.1 List.all_takeWhile, ?_⟩
    have hhead := List.head_dropWhile_not Char.isAlpha hne
    simpa [hd] using hhead
  rw [List.append_assoc, List.cons_append, TextLiteral.read?_letters hletters hc] at h ⊢
  rw [Option.bind_eq_none_iff] at h ⊢
  intro mark hmark
  have hnone := h mark hmark
  dsimp only at hnone ⊢
  split at hnone
  · cases hnone
  · next hquote => rw [if_neg hquote]

/-- No token starts with a character of the layout. -/
theorem readToken_plain (h : readToken p = some (t, q)) :
    ∃ c rest, p.rest = c :: rest ∧ c ∉ layout := by
  have hchars : ∀ c ∈ layout, c.isAlpha = false ∧ (c == '"' || c == '\'') = false ∧
      (c.isDigit || c == '.') = false ∧ joins c = false := List.all_iff_forall_prop.1 (by decide)
  cases hp : p.rest with
  | nil =>
      rw [readToken, hp] at h
      cases h
  | cons c rest =>
      refine ⟨c, rest, rfl, fun hc => ?_⟩
      obtain ⟨halpha, hquote, hdigit, hjoins⟩ := hchars c hc
      rw [Bool.or_eq_false_iff] at hdigit
      have htext : TextLiteral.read? (c :: rest) = none := by
        have hread : TextLiteral.read? ([] ++ c :: rest) = _ :=
          TextLiteral.read?_letters (by simp) halpha
        simpa [hquote] using hread
      rw [readToken, hp, htext] at h
      simp only [hdigit.1, hdigit.2, Bool.false_and, Bool.or_self, Bool.false_eq_true, if_false,
        hjoins] at h
      obtain ⟨s, hs, -⟩ := Option.bind_eq_some_iff.1 h
      obtain ⟨hfront, -, d, more, rfl, hd⟩ := find_operator hs
      rw [hp] at hfront
      obtain ⟨rfl, -⟩ := List.cons_prefix_cons.1 hfront
      exact hd hc

/-- A token is a text, or is made of the characters in front, none of which is a line feed. -/
theorem readToken_cases (h : readToken p = some (t, q)) :
    (∃ l rest, TextLiteral.read? p.rest = some (some (l, rest)) ∧ t = .text l ∧
        q = { p with rest, line := p.line + l.body.count '\n' }) ∨
      ∃ s awaited, s ≠ [] ∧ s <+: p.rest ∧ '\n' ∉ s ∧ q = { p.skip s with awaited } ∧
        ((∃ n, t = .number n) ∨ (∃ n, t = .name n) ∨ ∃ n, t = .sign n) := by
  have hplain : ∀ {f : Char → Bool} {s : List Char}, f '\n' = false → '\n' ∉ s.takeWhile f := by
    intro f s hf hmem
    rw [List.all_eq_true.1 List.all_takeWhile _ hmem] at hf
    cases hf
  unfold readToken at h
  split at h
  · next l rest htext =>
      obtain ⟨rfl, rfl⟩ := Prod.mk.inj (Option.some.inj h)
      exact .inl ⟨l, rest, htext, rfl, rfl⟩
  · cases h
  · right
    split at h
    · cases h
    · next c more hp =>
        split at h
        · next hdigit =>
            obtain ⟨rest, hafter, hq⟩ := Option.map_eq_some_iff.1 h
            obtain ⟨rfl, rfl⟩ := Prod.mk.inj hq
            refine ⟨_, p.awaited, ?_, (List.take_prefix _ _).trans (List.takeWhile_prefix _),
              fun hmem => hplain (by decide) (List.mem_of_mem_take hmem), rfl, .inl ⟨_, rfl⟩⟩
            have hc : c.isDigit = true ∨ c = '.' := by
              rcases Bool.or_eq_true_iff.1 hdigit with hc | hc
              · exact .inl hc
              · exact .inr (beq_iff_eq.1 (Bool.and_eq_true_iff.1 hc).1)
            rw [hp, List.takeWhile_cons_of_pos] at hafter ⊢
            · have hlen := (Number.after_suffix hc hafter).length_le
              rw [Ne, List.take_eq_nil_iff, List.length_cons]
              simp
              omega
            all_goals
              rcases hc with hc | rfl
              · simp [joins, Char.isAlphanum, hc]
              · rfl
        · split at h
          · next hjoins =>
              have hne : p.rest.takeWhile joins ≠ [] := by
                rw [hp, List.takeWhile_cons_of_pos hjoins]
                exact List.cons_ne_nil _ _
              unfold readName at h
              dsimp only at h
              split at h
              · obtain ⟨rfl, rfl⟩ := Prod.mk.inj (Option.some.inj h)
                exact ⟨_, p.awaited, hne, List.takeWhile_prefix _, hplain (by decide), rfl,
                  .inr (.inr ⟨_, rfl⟩)⟩
              · split at h
                · obtain ⟨rfl, rfl⟩ := Prod.mk.inj (Option.some.inj h)
                  exact ⟨_, p.awaited, hne, List.takeWhile_prefix _, hplain (by decide), rfl,
                    .inr (.inl ⟨_, rfl⟩)⟩
                · cases h
          · obtain ⟨s, hs, h⟩ := Option.bind_eq_some_iff.1 h
            obtain ⟨awaited, -, h⟩ := Option.bind_eq_some_iff.1 h
            obtain ⟨rfl, rfl⟩ := Prod.mk.inj (Option.some.inj h)
            obtain ⟨hfront, hline, d, s, rfl, -⟩ := find_operator hs
            exact ⟨_, awaited, List.cons_ne_nil _ _, hfront, hline, rfl, .inr (.inr ⟨_, rfl⟩)⟩

/-- The tokens of the layout are made by lines and margins only. -/
theorem readToken_not_layout (h : readToken p = some (t, q)) :
    t ≠ .newline ∧ t ≠ .indent ∧ t ≠ .dedent := by
  rcases readToken_cases h with ⟨l, rest, -, rfl, -⟩ | ⟨s, awaited, -, -, -, -, h⟩
  · simp
  · rcases h with ⟨n, rfl⟩ | ⟨n, rfl⟩ | ⟨n, rfl⟩ <;> simp

theorem readToken_advances (h : readToken p = some (t, q)) :
    p.Advances q ∧ q.rest.length < p.rest.length := by
  rcases readToken_cases h with ⟨l, rest, htext, -, rfl⟩ | ⟨s, awaited, hne, ⟨rest, hs⟩, hline, rfl, -⟩
  · obtain ⟨u, quote, hs, -, hcount, -⟩ := TextLiteral.read?_eq_some htext
    refine ⟨Place.advances_append (u := u ++ [quote]) (by simp [hs]) (by rw [hcount]), ?_⟩
    simp [hs]
    omega
  · have hrest : (p.skip s).rest = rest := by rw [Place.skip, ← hs, List.drop_left]
    refine ⟨Place.advances_append (u := s) ?_ ?_, ?_⟩
    · exact hs.symm.trans (congrArg (s ++ ·) hrest.symm)
    · rw [List.count_eq_zero.2 hline]
      rfl
    · have hpos := List.length_pos_iff.2 hne
      have hlen : rest.length < p.rest.length := by
        rw [← hs, List.length_append]
        omega
      exact hrest ▸ hlen

/-- A token in front of a seam is read in the same way at another place, whatever is behind the
seam. -/
theorem readToken_moved (hv : Seam u v) (hw : Seam u w) (hu : u ≠ [])
    (h : readToken ⟨u ++ v, line, awaited⟩ = some (t, q)) (hq : q.rest = u' ++ v) (k : Nat) :
    readToken ⟨u ++ w, line + k, awaited⟩ = some (t, q.moved k (u' ++ w)) := by
  unfold readToken at h ⊢
  dsimp only at h ⊢
  cases hread : TextLiteral.read? (u ++ v) with
  | some result =>
      rw [hread] at h
      cases result with
      | none => cases h
      | some result =>
          obtain ⟨l, rest⟩ := result
          obtain ⟨rfl, rfl⟩ := Prod.mk.inj (Option.some.inj h)
          obtain ⟨front, quote, hs, hquote, -, hsame⟩ := TextLiteral.read?_eq_some hread
          obtain rfl : rest = u' ++ v := hq
          obtain rfl : u = front ++ quote :: u' := by
            refine List.append_cancel_right (hs.trans ?_)
            rw [List.append_assoc, List.cons_append]
          -- a seam is left behind no quote
          have hne : u' ≠ [] := by
            rintro rfl
            rw [hv.ne_quote] at hquote
            cases hquote
          obtain ⟨c, u', rfl⟩ := List.exists_cons_of_ne_nil hne
          rw [List.append_assoc, List.cons_append, hsame (c :: u' ++ w) rfl]
          simp only [Place.moved, Nat.add_right_comm]
  | none =>
      rw [hread] at h
      rw [read?_none_moved hv hw hu hread]
      obtain ⟨c, more, rfl⟩ := List.exists_cons_of_ne_nil hu
      dsimp only [List.cons_append] at h ⊢
      have hnumber : (c.isDigit || (c == '.' && (more ++ w).head?.any Char.isDigit)) =
          (c.isDigit || (c == '.' && (more ++ v).head?.any Char.isDigit)) := by
        cases more with
        | cons d more => rfl
        | nil =>
            have hdot := (hv.free c rfl).2
            simp only [List.mem_cons, List.not_mem_nil, or_false, not_or] at hdot
            rw [beq_eq_false_iff_ne.2 hdot.1, Bool.false_and, Bool.false_and]
      rw [hnumber]
      split at h
      · next hdigit =>
          rw [if_pos hdigit]
          exact readNumber_moved hv hu h hq
      · next hdigit =>
          rw [if_neg hdigit]
          split at h
          · next hname =>
              rw [if_pos hname]
              exact readName_moved hv hu h hq
          · next hname =>
              rw [if_neg hname]
              exact readOperator_moved hv hw hu h hq

end Tokens

end SecretScan.Script

import SecretScan.Proofs.Script.Tokens
import SecretScan.Proofs.Text.LineEnds
import SecretScan.Script.Import

/-!
# The lines in front of an import

An import is put behind lines that are cut by a reader that knows all line ends, and tokens are
read from a text in which every line ends in a line feed. Where the lines in front end in nothing
but line feeds and carriage returns these are the same lines (`withLineFeeds_lines`), and what is
put behind them stands on a line of its own (`withLineFeeds_insertImport`).
-/

namespace SecretScan.Script

open Text

/-- A line without its end. -/
def lineBody (line : List Char) : List Char := line.takeWhile fun c => c != '\n' && c != '\r'

/-- Lines, each with a line feed at its end. -/
def fedLines (lines : List (List Char)) : List Char :=
  lines.flatMap fun line => lineBody line ++ ['\n']

/-- The first lines of a text end in line feeds and carriage returns, whoever reads them. -/
structure PlainLines (s : List Char) (lines behind : List (List Char)) : Prop where
  cut : linesWithEnds s = lines ++ behind
  ends : ∀ line ∈ lines, ∀ c ∈ line, isLineEnd c = true → c = '\n' ∨ c = '\r'

/-- Nothing or an empty line. -/
def IsBlank (s : List Char) : Prop := s = [] ∨ s = ['\n']

/-- Two texts are the same, or there is nothing in both of them. -/
def SameRest (s t : List Char) : Prop := s = t ∨ IsBlank s ∧ IsBlank t

section

variable {s t u y z body e rest : List Char} {lines behind : List (List Char)}

theorem SameRest.refl (s : List Char) : SameRest s s := .inl rfl

theorem SameRest.symm (h : SameRest s t) : SameRest t s := h.imp Eq.symm And.symm

theorem SameRest.trans (h : SameRest s t) (h' : SameRest t u) : SameRest s u := by
  rcases h with rfl | h
  · exact h'
  · rcases h' with rfl | h'
    · exact .inr h
    · exact .inr ⟨h.1, h'.2⟩

/-! ## Single lines -/

/-- What ends a line for the reader of tokens. -/
def plainEnds : List (List Char) := [['\n'], ['\r'], ['\r', '\n']]

theorem not_lineEnd (hbody : ∀ c ∈ body, isLineEnd c = false) : '\n' ∉ body ∧ '\r' ∉ body := by
  refine ⟨fun h => ?_, fun h => ?_⟩
  · exact absurd (hbody _ h) (by decide)
  · exact absurd (hbody _ h) (by decide)

theorem lineBody_append (hbody : ∀ c ∈ body, isLineEnd c = false)
    (he : e = [] ∨ e ∈ plainEnds) : lineBody (body ++ e) = body := by
  obtain ⟨hfeed, hreturn⟩ := not_lineEnd hbody
  have hend : e.takeWhile (fun c => c != '\n' && c != '\r') = [] := by
    rcases he with rfl | he
    · rfl
    · simp only [plainEnds, List.mem_cons, List.not_mem_nil, or_false] at he
      rcases he with rfl | rfl | rfl <;> rfl
  rw [lineBody, List.takeWhile_append_of_pos, hend, List.append_nil]
  intro c hc
  rw [Bool.and_eq_true, bne_iff_ne, bne_iff_ne]
  exact ⟨fun h => hfeed (h ▸ hc), fun h => hreturn (h ▸ hc)⟩

theorem fedLines_cons (hbody : ∀ c ∈ body, isLineEnd c = false) (he : e = [] ∨ e ∈ plainEnds) :
    fedLines ((body ++ e) :: lines) = body ++ '\n' :: fedLines lines := by
  rw [fedLines, List.flatMap_cons, lineBody_append hbody he, List.append_assoc]
  rfl

/-- The first one of some lines has an end that the reader of tokens knows, or is the last line of
all and has no end. -/
theorem PlainLines.cons {line : List Char} (h : PlainLines s (line :: lines) behind) :
    ∃ body e rest, s = body ++ (e ++ rest) ∧ line = body ++ e ∧
      (∀ c ∈ body, isLineEnd c = false) ∧ PlainLines rest lines behind ∧
      (e = [] ∧ rest = [] ∧ body ≠ [] ∨
        e ∈ plainEnds ∧ (e = ['\r'] → rest.head? ≠ some '\n')) := by
  have hs : s ≠ [] := by
    rintro rfl
    cases h.cut
  obtain ⟨body, e, rest, rfl, hcut, hbody, he⟩ := exists_lineEnd hs
  rw [h.cut] at hcut
  obtain ⟨rfl, hlines⟩ := List.cons.inj hcut
  refine ⟨body, e, rest, rfl, rfl, hbody, ⟨hlines.symm, fun l hl => h.ends l (by simp [hl])⟩, ?_⟩
  cases he with
  | both => exact .inr ⟨by simp [plainEnds], by simp⟩
  | @one c _ hc hhead =>
      right
      rcases h.ends _ List.mem_cons_self c (by simp) hc with rfl | rfl
      · exact ⟨by simp [plainEnds], by simp⟩
      · exact ⟨by simp [plainEnds], fun _ => hhead rfl⟩
  | nothing => exact .inl ⟨rfl, rfl, by simpa using hs⟩

theorem PlainLines.nil (h : PlainLines s [] behind) : behind.flatten = s := by
  rw [← linesWithEnds_flatten s, h.cut, List.nil_append]

theorem PlainLines.of_nil (h : PlainLines [] lines behind) : lines = [] ∧ behind = [] :=
  List.append_eq_nil_iff.1 h.cut.symm

/-- A text gets a line feed at its end unless it has one, or a carriage return; behind both of
these it gets one more. -/
theorem withLineFeeds_concat (s : List Char) (c : Char) :
    withLineFeeds (s ++ [c]) = unifyLineEnds (s ++ [c]) ++
      if c = '\r' ∨ c = '\n' ∧ s.getLast? ≠ some '\r' then [] else ['\n'] := by
  rw [withLineFeeds, List.reverse_concat, ← List.head?_reverse]
  cases s.reverse with
  | nil => split <;> simp_all
  | cons d s =>
      split <;> simp_all
      grind

theorem withLineFeeds_whole (s : List Char) : IsWhole (withLineFeeds s) := by
  rcases List.eq_nil_or_concat s with rfl | ⟨s, c, rfl⟩
  · rintro c ⟨⟩
    rfl
  · rw [List.concat_eq_append, withLineFeeds_concat]
    split
    · next hc =>
        rw [List.append_nil, Text.unifyLineEnds_append]
        · rintro d hd
          rcases hc with rfl | ⟨rfl, -⟩ <;> simpa [Text.unifyLineEnds] using hd.symm
        · rcases hc with rfl | ⟨rfl, hlast⟩
          · simp
          · exact fun h => absurd h hlast
    · rintro d hd
      rw [List.getLast?_concat] at hd
      exact (Option.some.inj hd).symm

theorem getLast?_plainEnd (body : List Char) (he : e ∈ plainEnds) :
    (body ++ e).getLast? = some '\n' ∨ e = ['\r'] ∧ (body ++ e).getLast? = some '\r' := by
  simp only [plainEnds, List.mem_cons, List.not_mem_nil, or_false] at he
  rcases he with rfl | rfl | rfl <;> simp

/-- What is behind a text is read by itself, unless a line end is cut. -/
theorem withLineFeeds_append {x : List Char} (hy : y ≠ [])
    (hcut : x.getLast? = some '\r' → y.head? ≠ some '\n') :
    withLineFeeds (x ++ y) = unifyLineEnds x ++ withLineFeeds y := by
  obtain ⟨y, c, rfl⟩ := (List.eq_nil_or_concat y).resolve_left hy
  rw [List.concat_eq_append] at hcut ⊢
  rw [← List.append_assoc, withLineFeeds_concat, withLineFeeds_concat, List.append_assoc _ y,
    unifyLineEnds_append hcut, List.append_assoc]
  congr 2
  refine if_congr (or_congr_right (and_congr_right ?_)) rfl rfl
  rintro rfl
  cases y with
  | nil => simpa using hcut
  | cons d y => rw [List.getLast?_append, List.getLast?_cons, Option.some_or]

/-- What is behind a text that ends in no line end is read by itself. -/
theorem withLineFeeds_behind {x : List Char} {c : Char} (hfeed : c ≠ '\n') (hreturn : c ≠ '\r') :
    withLineFeeds (x ++ [c] ++ y) = unifyLineEnds (x ++ [c]) ++ withLineFeeds y := by
  cases y with
  | nil =>
      rw [List.append_nil, withLineFeeds_concat, if_neg]
      · rfl
      · rintro (h | h)
        · exact hreturn h
        · exact hfeed h.1
  | cons d y =>
      refine withLineFeeds_append (List.cons_ne_nil _ _) fun hlast => ?_
      rw [List.getLast?_concat] at hlast
      exact absurd (Option.some.inj hlast) hreturn

/-- The text behind a line is read by itself. -/
theorem withLineFeeds_line (hbody : ∀ c ∈ body, isLineEnd c = false) (he : e ∈ plainEnds)
    (hy : y ≠ []) (hhead : e = ['\r'] → y.head? ≠ some '\n') :
    withLineFeeds (body ++ (e ++ y)) = body ++ '\n' :: withLineFeeds y := by
  obtain ⟨-, hreturn⟩ := not_lineEnd hbody
  have hunify : unifyLineEnds (body ++ e) = body ++ ['\n'] := by
    rw [unifyLineEnds_append, unifyLineEnds_eq_self hreturn]
    · simp only [plainEnds, List.mem_cons, List.not_mem_nil, or_false] at he
      rcases he with rfl | rfl | rfl <;> rfl
    · exact fun h => absurd (List.mem_of_getLast? h) hreturn
  have hcut : (body ++ e).getLast? = some '\r' → y.head? ≠ some '\n' := by
    rcases getLast?_plainEnd body he with hlast | ⟨rfl, -⟩
    · rw [hlast]
      simp
    · exact fun _ => hhead rfl
  rw [← List.append_assoc, withLineFeeds_append hy hcut, hunify, List.append_assoc]
  rfl

/-- At most an empty line is read behind the last line. -/
theorem withLineFeeds_last (hbody : ∀ c ∈ body, isLineEnd c = false)
    (he : e = [] ∨ e ∈ plainEnds) :
    ∃ y, IsBlank y ∧ withLineFeeds (body ++ e) = body ++ '\n' :: y := by
  obtain ⟨hfeed, hreturn⟩ := not_lineEnd hbody
  have hunify : ∀ e, unifyLineEnds (body ++ e) = body ++ unifyLineEnds e := by
    intro e
    rw [unifyLineEnds_append, unifyLineEnds_eq_self hreturn]
    exact fun h => absurd (List.mem_of_getLast? h) hreturn
  rcases he with rfl | he
  · refine ⟨[], .inl rfl, ?_⟩
    rw [List.append_nil]
    rcases List.eq_nil_or_concat body with rfl | ⟨body, c, rfl⟩
    · rfl
    · rw [List.concat_eq_append] at hfeed hreturn ⊢
      rw [withLineFeeds_concat, unifyLineEnds_eq_self hreturn, if_neg]
      rintro (rfl | ⟨rfl, -⟩)
      · simp at hreturn
      · simp at hfeed
  · simp only [plainEnds, List.mem_cons, List.not_mem_nil, or_false] at he
    rcases he with rfl | rfl | rfl
    · refine ⟨[], .inl rfl, ?_⟩
      rw [withLineFeeds_concat, hunify, if_pos (.inr ⟨rfl, fun h =>
        hreturn (List.mem_of_getLast? h)⟩), List.append_nil]
      rfl
    · refine ⟨[], .inl rfl, ?_⟩
      rw [withLineFeeds_concat, hunify, if_pos (.inl rfl), List.append_nil]
      rfl
    · refine ⟨['\n'], .inr rfl, ?_⟩
      have hboth : body ++ ['\r', '\n'] = (body ++ ['\r']) ++ ['\n'] := by simp
      rw [hboth, withLineFeeds_concat, ← hboth, hunify, if_neg (by simp), List.append_assoc]
      rfl

/-! ## Lines -/

/-- The first lines of a text are the same for the reader of tokens. -/
theorem withLineFeeds_lines (h : PlainLines s lines behind) :
    ∃ y, withLineFeeds s = fedLines lines ++ y ∧ SameRest y (withLineFeeds behind.flatten) := by
  induction lines generalizing s with
  | nil => exact ⟨_, rfl, h.nil ▸ .refl _⟩
  | cons line lines ih =>
      obtain ⟨body, e, rest, rfl, rfl, hbody, hrest, he⟩ := h.cons
      have hplain : e = [] ∨ e ∈ plainEnds := he.imp And.left And.left
      rw [fedLines_cons hbody hplain]
      by_cases hnil : rest = []
      · subst hnil
        obtain ⟨rfl, rfl⟩ := hrest.of_nil
        obtain ⟨y, hy, heq⟩ := withLineFeeds_last hbody hplain
        exact ⟨y, by simpa [fedLines] using heq, .inr ⟨hy, .inr rfl⟩⟩
      · obtain ⟨he, hhead⟩ := he.resolve_left fun h => hnil h.2.1
        obtain ⟨y, heq, hy⟩ := ih hrest
        exact ⟨y, by rw [withLineFeeds_line hbody he hnil hhead, heq]; simp, hy⟩

theorem PlainLines.flatten_ne_nil (h : PlainLines s lines behind) (hlines : lines ≠ []) :
    lines.flatten ≠ [] := by
  obtain ⟨line, lines, rfl⟩ := List.exists_cons_of_ne_nil hlines
  obtain ⟨body, e, rest, -, rfl, -, -, he⟩ := h.cons
  intro hnil
  obtain ⟨hline, -⟩ := List.append_eq_nil_iff.1 (List.flatten_cons ▸ hnil)
  obtain ⟨rfl, rfl⟩ := List.append_eq_nil_iff.1 hline
  rcases he with ⟨-, -, hbody⟩ | ⟨he, -⟩
  · exact hbody rfl
  · revert he
    decide

theorem PlainLines.head? (h : PlainLines s lines behind) (hlines : lines ≠ []) :
    lines.flatten.head? = s.head? := by
  rw [← linesWithEnds_flatten s, h.cut, List.flatten_append, List.head?_append]
  obtain ⟨c, f, hf⟩ := List.exists_cons_of_ne_nil (h.flatten_ne_nil hlines)
  rw [hf]
  rfl

theorem lineEndOf_plain (s : List Char) : lineEndOf s = ['\n'] ∨ lineEndOf s = ['\r', '\n'] := by
  rw [lineEndOf]
  split
  · exact .inr rfl
  · exact .inl rfl

/-- Lines that are ended before a text is put behind them are read by themselves, perhaps with an
empty line behind them. -/
theorem withLineFeeds_ended (h : PlainLines s lines behind) {lineEnd : List Char}
    (hend : lineEnd = ['\n'] ∨ lineEnd = ['\r', '\n']) (hz : z ≠ []) (hhead : z.head? ≠ some '\n') :
    ∃ pad, IsBlank pad ∧
      withLineFeeds (lines.flatten ++
        ((if lines = [] ∨ lines.flatten.getLast? = some '\n' then [] else lineEnd) ++ z)) =
        fedLines lines ++ (pad ++ withLineFeeds z) := by
  induction lines generalizing s with
  | nil => exact ⟨[], .inl rfl, by simp [fedLines]⟩
  | cons line lines ih =>
      obtain ⟨body, e, rest, rfl, rfl, hbody, hrest, he⟩ := h.cons
      rw [fedLines_cons hbody (he.imp And.left And.left)]
      have hplain : lineEnd ∈ plainEnds := by
        rcases hend with rfl | rfl <;> simp [plainEnds]
      by_cases hlines : lines = []
      · subst hlines
        have htail : ∀ x, body ++ '\n' :: fedLines [] ++ x = body ++ '\n' :: x := by
          simp [fedLines]
        simp only [List.flatten_singleton, htail]
        rcases he with ⟨rfl, -, -⟩ | ⟨he, -⟩
        · have hlast : body.getLast? ≠ some '\n' := fun h =>
            (not_lineEnd hbody).1 (List.mem_of_getLast? h)
          refine ⟨[], .inl rfl, ?_⟩
          rw [List.append_nil, if_neg (by simp [hlast]), withLineFeeds_line hbody hplain hz,
            List.nil_append]
          exact fun _ => hhead
        · rcases getLast?_plainEnd body he with hlast | ⟨rfl, hlast⟩
          · refine ⟨[], .inl rfl, ?_⟩
            rw [if_pos (.inr hlast), List.append_assoc, List.nil_append,
              withLineFeeds_line hbody he hz, List.nil_append]
            exact fun _ => hhead
          · rw [if_neg (by simp [hlast]), List.append_assoc]
            rcases hend with rfl | rfl
            · refine ⟨[], .inl rfl, ?_⟩
              rw [← List.append_assoc ['\r'], List.nil_append]
              exact withLineFeeds_line hbody (by simp [plainEnds]) hz (by simp)
            · have hblank : withLineFeeds ([] ++ (_ ++ z)) = _ :=
                withLineFeeds_line (by simp) hplain hz fun _ => hhead
              refine ⟨['\n'], .inr rfl, ?_⟩
              rw [withLineFeeds_line hbody he (by simp) (by simp)]
              exact congrArg (body ++ '\n' :: ·) hblank
      · have hrestne : rest ≠ [] := by
          rintro rfl
          exact hlines hrest.of_nil.1
        obtain ⟨he, hreturn⟩ := he.resolve_left fun h => hrestne h.2.1
        obtain ⟨c, f, hf⟩ := List.exists_cons_of_ne_nil (hrest.flatten_ne_nil hlines)
        have hfirst := hrest.head? hlines
        obtain ⟨pad, hpad, heq⟩ := ih hrest
        refine ⟨pad, hpad, ?_⟩
        rw [hf] at hfirst heq
        rw [List.flatten_cons, hf, List.getLast?_append, List.getLast?_cons, Option.some_or,
          ← List.getLast?_cons, List.append_assoc, List.append_assoc, List.cons_append,
          withLineFeeds_line hbody he (List.cons_ne_nil _ _)]
        · simp only [List.cons_ne_nil, hlines, false_or] at heq ⊢
          rw [List.append_assoc body]
          exact congrArg (body ++ '\n' :: ·) heq
        · exact fun h => hfirst ▸ hreturn h

/-- An import that is put behind the first lines of a text stands on a line of its own. -/
theorem withLineFeeds_insertImport (h : PlainLines s lines behind) :
    ∃ pad y y', withLineFeeds s = fedLines lines ++ y ∧
      withLineFeeds (insertImport s lines.length) =
        fedLines lines ++ (pad ++ ("import os\n".toList ++ y')) ∧ IsBlank pad ∧ SameRest y y' := by
  have hend := lineEndOf_plain s
  obtain ⟨y, hs, hy⟩ := withLineFeeds_lines h
  obtain ⟨y', himport, hy'⟩ : ∃ y', withLineFeeds ("import os".toList ++
      (lineEndOf s ++ behind.flatten)) = "import os\n".toList ++ y' ∧
      SameRest (withLineFeeds behind.flatten) y' := by
    have hbody : ∀ c ∈ "import os".toList, isLineEnd c = false :=
      List.all_iff_forall_prop.1 (by decide)
    have hplain : lineEndOf s ∈ plainEnds := by
      rcases hend with h | h <;> rw [h] <;> simp [plainEnds]
    by_cases hnil : behind.flatten = []
    · obtain ⟨y', hblank, heq⟩ := withLineFeeds_last hbody (.inr hplain)
      rw [hnil, List.append_nil, heq]
      exact ⟨y', rfl, .inr ⟨.inr rfl, hblank⟩⟩
    · refine ⟨_, withLineFeeds_line hbody hplain hnil fun h => ?_, .refl _⟩
      rcases hend with h' | h' <;> rw [h'] at h <;> cases h
  obtain ⟨pad, hpad, hinsert⟩ := withLineFeeds_ended h hend
    (z := "import os".toList ++ (lineEndOf s ++ behind.flatten)) (by simp) (by simp)
  refine ⟨pad, y, y', hs, ?_, hpad, hy.trans hy'⟩
  rw [← himport, ← hinsert, insertImport, h.cut]
  simp [variablesModule]

end

end SecretScan.Script

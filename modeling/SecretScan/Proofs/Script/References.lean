import Mathlib.Data.List.DropRight
import SecretScan.Proofs.Script.Lexing
import SecretScan.Proofs.Script.LineFeeds
import SecretScan.Proofs.Script.Statements

/-!
# Texts of a script that give way

A text of a script gives way to a reference without harm if it stands alone: nothing joins it
in front, no other text stands next to it, and its line is none of the rigid ones
(`StandsAlone`). Where texts give way that do, the tokens of the script are exchanged line by
line (`Swaps.exchanged`), and the script stays one (`read?_of_swaps`).

The reader of tokens comes to a reference in the same state as to the text, and leaves it in the
same state (`steps_reference`).
-/

namespace SecretScan.Script

/-! ## Tokens that are swapped -/

/-- The tokens behind the last end of a line. -/
def lastLine (ts : List Lexeme) : List Lexeme := ts.rtakeWhile (·.token ≠ .newline)

/-- Tokens among which texts gave way to references, in lines that are not rigid. For the line
with which the tokens begin it is told whether any text in it may give way. -/
inductive Swaps : Bool → List Lexeme → List Lexeme → Prop
  | nil {loose : Bool} : Swaps loose [] []
  | newline {loose : Bool} {line : Nat} {ts us : List Lexeme} : Swaps (!isRigid ts) ts us →
      Swaps loose (⟨.newline, line⟩ :: ts) (⟨.newline, line⟩ :: us)
  | keep {loose : Bool} {t : Lexeme} {ts us : List Lexeme} : t.token ≠ .newline →
      (t.token.holdsTexts = true → atText us = atText ts) → Swaps loose ts us →
      Swaps loose (t :: ts) (t :: us)
  | swap {line : Nat} {body name : List Char} {ts us : List Lexeme} :
      TextLiteral.hasGoodEscapes false name = true → atText ts = false → Swaps true ts us →
      Swaps true (⟨.text ⟨false, false, false, body⟩, line⟩ :: ts) (referenceTokens name line ++ us)

section

variable {loose : Bool} {ts us front behind : List Lexeme} {most : Nat}

theorem Swaps.refl (ts : List Lexeme) : ∀ loose, Swaps loose ts ts := by
  induction ts with
  | nil => exact fun _ => .nil
  | cons t ts ih =>
      intro loose
      obtain ⟨t, line⟩ := t
      by_cases ht : t = .newline
      · subst ht
        exact .newline (ih _)
      · exact .keep ht (fun _ => rfl) (ih _)

/-- What is swapped is exchanged line by line. -/
theorem Swaps.exchanged (h : Swaps loose ts us) (hmost : ts.length ≤ most) :
    ∃ n ≤ ts.length, Exchanged (· = ·) (ExchangedLines (· = ·) most) n ts us ∧
      (loose = false → n = 0) := by
  induction h with
  | nil => exact ⟨0, Nat.le_refl 0, .nil exchangedLines_nil, fun _ => rfl⟩
  | @newline loose line ts us _ ih =>
      have hmost : ts.length ≤ most := Nat.le_of_succ_le hmost
      obtain ⟨n, hn, h, hrigid⟩ := ih hmost
      have hlines : ExchangedLines (· = ·) most ts us :=
        exchangedLines_iff.2 ⟨n, hn.trans hmost, h, fun hts => hrigid (by rw [hts]; rfl)⟩
      exact ⟨0, Nat.zero_le _, .newline rfl hlines, fun _ => rfl⟩
  | @keep loose t ts us ht htext _ ih =>
      obtain ⟨n, hn, h, hloose⟩ := ih (Nat.le_of_succ_le hmost)
      exact ⟨n, hn.trans (Nat.le_succ _), .keep rfl ht htext h, hloose⟩
  | swap _ htext _ ih =>
      obtain ⟨n, hn, h, -⟩ := ih (Nat.le_of_succ_le hmost)
      exact ⟨n + 1, Nat.succ_le_succ hn, .swap rfl htext h, nofun⟩

theorem lastLine_concat (t : Lexeme) (ts : List Lexeme) :
    lastLine (ts ++ [t]) = if t.token = .newline then [] else lastLine ts ++ [t] := by
  by_cases ht : t.token = .newline
  · rw [if_pos ht, lastLine, List.rtakeWhile_concat_neg _ _ _ (by simp [ht])]
  · rw [if_neg ht, lastLine, List.rtakeWhile_concat_pos _ _ _ (by simp [ht]), lastLine]

/-- Tokens that were kept stand in front of others, if no text gave way next to them that they
hold. -/
theorem Swaps.append_left (h : Swaps (!isRigid (lastLine (front ++ behind) ++ ts)) ts us)
    (hbehind : EndsIn (·.token.holdsTexts = false) behind) :
    Swaps (!isRigid (lastLine front ++ (behind ++ ts))) (behind ++ ts) (behind ++ us) := by
  induction behind generalizing front with
  | nil => simpa using h
  | cons t behind ih =>
      have hconcat : Swaps (!isRigid (lastLine (front ++ [t] ++ behind) ++ ts)) ts us := by
        rwa [List.append_assoc, List.singleton_append]
      have hmore := ih hconcat (hbehind.suffix (List.suffix_cons _ _))
      rw [lastLine_concat] at hmore
      obtain ⟨t, line⟩ := t
      split at hmore
      · next ht =>
          obtain rfl : t = .newline := ht
          exact .newline hmore
      · next ht =>
          rw [List.append_assoc, List.singleton_append] at hmore
          refine .keep ht (fun htext => ?_) hmore
          cases behind with
          | nil => exact absurd htext (by simpa using hbehind _ rfl)
          | cons u behind => cases u with | mk u _ => cases u <;> rfl

/-- How long the text of a token is, if it is formatted. -/
theorem formattedLength_append (ts us : List Lexeme) :
    formattedLength (ts ++ us) = formattedLength ts + formattedLength us := by
  simp only [formattedLength, ← List.sum_eq_foldl, List.map_append, List.sum_append]

theorem Swaps.formattedLength (h : Swaps loose ts us) :
    formattedLength us = formattedLength ts := by
  induction h with
  | nil => rfl
  | @newline loose line ts us _ ih =>
      exact (formattedLength_append [_] us).trans
        ((congrArg _ ih).trans (formattedLength_append [_] ts).symm)
  | @keep loose t ts us _ _ _ ih =>
      exact (formattedLength_append [t] us).trans
        ((congrArg _ ih).trans (formattedLength_append [t] ts).symm)
  | @swap line body name ts us _ _ _ ih =>
      rw [formattedLength_append, ih]
      exact (formattedLength_append [⟨.text ⟨false, false, false, body⟩, line⟩] ts).symm

/-- A reference holds a text that is well formed. -/
theorem Swaps.areReadable (h : Swaps loose ts us) {depth : Nat}
    (hts : areReadable depth ts = true) : areReadable depth us = true := by
  cases depth with
  | zero => cases hts
  | succ depth =>
      unfold Script.areReadable at hts ⊢
      induction h with
      | nil => rfl
      | newline _ ih => exact ih hts
      | keep _ _ _ ih =>
          rw [List.all_cons, Bool.and_eq_true] at hts ⊢
          exact ⟨hts.1, ih hts.2⟩
      | @swap line body name ts us hname _ _ ih =>
          rw [List.all_cons, Bool.and_eq_true] at hts
          rw [List.all_append, Bool.and_eq_true]
          refine ⟨?_, ih hts.2⟩
          simp [referenceTokens, TextLiteral.expressions?, hname]

/-- A script in which texts gave way to references is a script. -/
theorem read?_of_swaps {s t : List Char} {statements : List Statement}
    (hread : read? s = some statements) (hts : tokens? (withLineFeeds s) = some ts)
    (hus : tokens? (withLineFeeds t) = some us) (h : Swaps (!isRigid ts) ts us)
    (hnull : '\x00' ∉ t) : ∃ statements', read? t = some statements' := by
  obtain ⟨-, ts', hts', hstatements, hreadable⟩ := read?_eq_some.1 hread
  obtain rfl : ts = ts' := Option.some.inj (hts.symm.trans hts')
  obtain ⟨n, hn, hexchanged, hrigid⟩ := h.exchanged (Nat.le_refl _)
  have hlines : ExchangedLines (· = ·) ts.length ts us :=
    exchangedLines_iff.2 ⟨n, hn, hexchanged, fun hts => hrigid (by rw [hts]; rfl)⟩
  have hlen := Nat.succ_le_succ hlines.length_le
  obtain ⟨statements', hstatements', -⟩ := Statement.readAll_carries hlen hlines _ hstatements
  refine ⟨statements', read?_eq_some.2 ⟨hnull, us, hus, hstatements', ?_⟩⟩
  rw [h.formattedLength]
  exact h.areReadable hreadable

end

/-! ## Reading a reference -/

/-- What a name may consist of that stands between quotes. -/
def IsPlain (name : List Char) : Prop := ∀ c ∈ name, c ∉ ['"', '\\', '\n', '\r']

/-- A reference to a variable, as it stands in a script. -/
def referenceText (name : List Char) : List Char :=
  "os.environ[\"".toList ++ (name ++ "\"]".toList)

section

variable {name rest : List Char}

theorem hasGoodEscapes_plain (hname : IsPlain name) :
    TextLiteral.hasGoodEscapes false name = true := by
  induction name with
  | nil => rfl
  | cons c name ih =>
      obtain ⟨hc, hname⟩ := List.forall_mem_cons.1 hname
      rw [TextLiteral.hasGoodEscapes]
      · exact ih hname
      · rintro d more rfl
        exact absurd hc (by decide)

theorem readLine_plain (hname : IsPlain name) :
    TextLiteral.readLine '"' (name ++ '"' :: rest) = some (name, rest) := by
  induction name with
  | nil => rfl
  | cons c name ih =>
      obtain ⟨hc, hname⟩ := List.forall_mem_cons.1 hname
      simp only [List.mem_cons, List.not_mem_nil, or_false, not_or] at hc
      rw [List.cons_append, TextLiteral.readLine]
      · rw [ih hname, if_neg (by simpa using hc.1), if_neg (by simpa using hc.2.2.1)]
        rfl
      · intro d more heq
        exact absurd heq hc.2.1

/-- The reader of tokens reads a reference token by token. -/
theorem steps_reference (hname : IsPlain name) (margins : List Margin) (line : Nat)
    {awaited : List Char} (hroom : awaited.length < TextLiteral.bracketLimit) :
    Steps 6 ⟨false, margins, ⟨referenceText name ++ rest, line, awaited⟩⟩
      (referenceTokens name line) ⟨false, margins, ⟨rest, line, awaited⟩⟩ := by
  have hbody : TextLiteral.read? ('"' :: (name ++ '"' :: ']' :: rest)) =
      some (some (⟨false, false, false, name⟩, ']' :: rest)) := by
    have hblock : ['"', '"'].isPrefixOf (name ++ '"' :: ']' :: rest) = false := by
      cases name with
      | nil => rfl
      | cons c name =>
          have hc : '"' ≠ c := by
            rintro rfl
            exact absurd (hname _ List.mem_cons_self) (by decide)
          simp [List.isPrefixOf, hc]
    rw [show '"' :: (name ++ '"' :: ']' :: rest) = [] ++ '"' :: (name ++ '"' :: ']' :: rest) from rfl,
      TextLiteral.read?_letters (by simp) (by decide), TextLiteral.readBody, hblock]
    simp [TextLiteral.marks, readLine_plain hname]
  have hcount : name.count '\n' = 0 :=
    List.count_eq_zero.2 fun hmem => absurd (hname _ hmem) (by decide)
  have htail : referenceText name ++ rest =
      'o' :: 's' :: '.' :: ("environ[".toList ++ '"' :: (name ++ '"' :: ']' :: rest)) := by
    show "os.environ[\"".toList ++ (name ++ "\"]".toList) ++ rest = _
    rw [List.append_assoc, List.append_assoc]
    rfl
  have hos : ∀ s, readToken ⟨'o' :: 's' :: '.' :: s, line, awaited⟩ =
      some (.name "os", ⟨'.' :: s, line, awaited⟩) := fun _ => rfl
  have hpoint : ∀ s, readToken ⟨'.' :: ("environ[".toList ++ s), line, awaited⟩ =
      some (.sign ".", ⟨"environ[".toList ++ s, line, awaited⟩) := fun _ => rfl
  have henviron : ∀ s, readToken ⟨"environ[".toList ++ s, line, awaited⟩ =
      some (.name "environ", ⟨'[' :: s, line, awaited⟩) := fun _ => rfl
  have hopen : ∀ s, readToken ⟨'[' :: s, line, awaited⟩ =
      some (.sign "[", ⟨s, line, ']' :: awaited⟩) := by
    intro s
    have hawaited : awaitedAfter awaited ['['] = some (']' :: awaited) :=
      if_neg (Nat.not_le.2 hroom)
    have hread : readToken ⟨'[' :: s, line, awaited⟩ =
        (awaitedAfter awaited ['[']).bind fun awaited => some (.sign "[", ⟨s, line, awaited⟩) := rfl
    rw [hread, hawaited]
    rfl
  have htext : readToken ⟨'"' :: (name ++ '"' :: ']' :: rest), line, ']' :: awaited⟩ =
      some (.text ⟨false, false, false, name⟩, ⟨']' :: rest, line, ']' :: awaited⟩) := by
    rw [readToken, hbody]
    simp [hcount]
  have hclose : readToken ⟨']' :: rest, line, ']' :: awaited⟩ =
      some (.sign "]", ⟨rest, line, awaited⟩) := rfl
  rw [htail]
  exact .more (.token (hos _)) (.more (.token (hpoint _)) (.more (.token (henviron _))
    (.more (.token (hopen _)) (.more (.token htext) (.one (.token hclose))))))

theorem notMem_referenceText {c : Char} (hc : c ∉ "os.environ[\"".toList ++ "\"]".toList)
    (hname : c ∉ name) : c ∉ referenceText name := by
  rw [List.mem_append, not_or] at hc
  intro hmem
  rcases List.mem_append.1 hmem with hmem | hmem
  · exact hc.1 hmem
  · exact (List.mem_append.1 hmem).elim hname hc.2

/-- A reference is read by itself. -/
theorem withLineFeeds_reference (hname : IsPlain name) :
    withLineFeeds (referenceText name ++ rest) = referenceText name ++ withLineFeeds rest := by
  have hreturn : '\r' ∉ referenceText name :=
    notMem_referenceText (by decide) fun hmem => absurd (hname _ hmem) (by decide)
  have hlast : referenceText name = "os.environ[\"".toList ++ (name ++ ['"']) ++ [']'] := by
    show "os.environ[\"".toList ++ (name ++ "\"]".toList) = _
    simp
  rw [hlast, withLineFeeds_behind (by decide) (by decide), ← hlast,
    Text.unifyLineEnds_eq_self hreturn]

end

/-! ## Texts that stand alone -/

/-- The reader of tokens comes to a text between quotes, with tokens in front of it and behind
it. -/
structure Meets (before : List Char) (quote : Char) (body after : List Char)
    (ts us : List Lexeme) (line : Nat) (awaited : List Char) : Prop where
  reached : ∃ n margins,
    Steps n (.atLine (withLineFeeds (before ++ quote :: (body ++ quote :: after))) 1) ts
      ⟨false, margins, ⟨withLineFeeds (quote :: (body ++ quote :: after)), line, awaited⟩⟩
  token : readToken ⟨withLineFeeds (quote :: (body ++ quote :: after)), line, awaited⟩ =
    some (.text ⟨false, false, false, body⟩, ⟨withLineFeeds after, line, awaited⟩)
  tokens : tokens? (withLineFeeds (before ++ quote :: (body ++ quote :: after))) =
    some (ts ++ ⟨.text ⟨false, false, false, body⟩, line⟩ :: us)

/-- A token stands next to no text and not behind a point, in a line that is not rigid. -/
structure IsLoose (ts : List Lexeme) (t : Lexeme) (us : List Lexeme) : Prop where
  before : EndsIn (·.token.holdsTexts = false) ts
  behind : atText us = false
  line : isRigid (lastLine ts ++ t :: us) = false

/-- A text between quotes is a token of the script, to which nothing in front is joined, and may
give way, and one more bracket may be open there. -/
structure StandsAlone (before : List Char) (quote : Char) (body after : List Char) : Prop where
  free : EndsIn IsFree before
  loose : ∃ ts us line awaited, Meets before quote body after ts us line awaited ∧
    IsLoose ts ⟨.text ⟨false, false, false, body⟩, line⟩ us ∧
    awaited.length < TextLiteral.bracketLimit

/-- What is left of a script may be exchanged: the reader of tokens reads the same from there on,
but for texts that gave way. -/
structure ReadsLike (script s t : List Char) : Prop where
  reads : ∀ {n m line : Nat} {ts us : List Lexeme} {atStart : Bool} {margins : List Margin}
    {awaited : List Char},
    Steps n (.atLine (withLineFeeds script) 1) ts
      ⟨atStart, margins, ⟨withLineFeeds s, line, awaited⟩⟩ →
    Reads m ⟨atStart, margins, ⟨withLineFeeds s, line, awaited⟩⟩ us →
    ∃ k vs, Reads k ⟨atStart, margins, ⟨withLineFeeds t, line, awaited⟩⟩ vs ∧
      Swaps (!isRigid (lastLine ts ++ us)) us vs

section

variable {script before front body after after' name s t : List Char} {quote : Char}

theorem ReadsLike.refl (script s : List Char) : ReadsLike script s s :=
  ⟨fun _ hreads => ⟨_, _, hreads, .refl _ _⟩⟩

theorem isFree_unifyLineEnds (h : EndsIn IsFree s) : EndsIn IsFree (Text.unifyLineEnds s) := by
  intro c hc
  rw [Text.getLast?_unifyLineEnds] at hc
  obtain ⟨d, hd, rfl⟩ := Option.map_eq_some_iff.1 hc
  split
  · exact ⟨by decide, by decide⟩
  · exact h d hd

theorem startsApart_quote (hquote : quote = '"' ∨ quote = '\'') (s : List Char) :
    StartsApart (quote :: s) := by
  have hall : ∀ op ∈ operators, '"' ∉ op ∧ '\'' ∉ op := List.all_iff_forall_prop.1 (by decide)
  rcases hquote with rfl | rfl
  · exact ⟨_, _, rfl, by decide, fun op hop => (hall op hop).1⟩
  · exact ⟨_, _, rfl, by decide, fun op hop => (hall op hop).2⟩

theorem startsApart_reference (name s : List Char) : StartsApart (referenceText name ++ s) := by
  have hall : ∀ op ∈ operators, 'o' ∉ op :=
    (List.all_iff_forall_prop (p := fun op => 'o' ∉ op)).1 (by decide)
  exact ⟨'o', _, rfl, by decide, hall⟩

theorem startsApart_withLineFeeds (hquote : quote = '"' ∨ quote = '\'') (s : List Char) :
    StartsApart (withLineFeeds (quote :: s)) := by
  have hplain : quote ≠ '\n' ∧ quote ≠ '\r' := by
    rcases hquote with rfl | rfl <;> decide
  have hcut : withLineFeeds (quote :: s) = Text.unifyLineEnds [quote] ++ withLineFeeds s :=
    withLineFeeds_behind (x := []) hplain.1 hplain.2
  rcases hquote with rfl | rfl
  · exact hcut ▸ startsApart_quote (.inl rfl) _
  · exact hcut ▸ startsApart_quote (.inr rfl) _

theorem withLineFeeds_apart {x y : List Char} (hy : StartsApart y) :
    withLineFeeds (x ++ y) = Text.unifyLineEnds x ++ withLineFeeds y := by
  obtain ⟨c, rest, rfl, hc, -⟩ := hy
  refine withLineFeeds_append (List.cons_ne_nil _ _) fun _ hline => ?_
  obtain rfl : c = '\n' := Option.some.inj hline
  exact hc (by decide)

/-- The reader comes to a text from every place in front of it. -/
theorem Meets.comes {n line line' : Nat} {ts ts' us' : List Lexeme} {atStart : Bool}
    {margins : List Margin} {awaited awaited' : List Char}
    (h : Meets before quote body after ts' us' line' awaited')
    (hquote : quote = '"' ∨ quote = '\'')
    (hsteps : Steps n (.atLine (withLineFeeds (before ++ quote :: (body ++ quote :: after))) 1) ts
      ⟨atStart, margins, ⟨withLineFeeds (front ++ quote :: (body ++ quote :: after)), line, awaited⟩⟩) :
    ∃ k vs margins', Steps k
      ⟨atStart, margins, ⟨withLineFeeds (front ++ quote :: (body ++ quote :: after)), line, awaited⟩⟩ vs
      ⟨false, margins', ⟨withLineFeeds (quote :: (body ++ quote :: after)), line', awaited'⟩⟩ ∧
      ts' = ts ++ vs := by
  obtain ⟨m, margins', hreached⟩ := h.reached
  rcases hsteps.compare hreached with ⟨k, vs, hgap, rfl⟩ | ⟨k, vs, hback, rfl⟩
  · exact ⟨k, vs, margins', hgap, rfl⟩
  · have hlen := hback.length_le (withLineFeeds_whole _)
    simp only [withLineFeeds_apart (startsApart_quote hquote _), List.length_append,
      Bool.toNat_false] at hlen
    obtain rfl : k = 0 := by omega
    obtain ⟨rfl, heq⟩ := hback.of_zero
    exact ⟨0, [], margins', heq ▸ .refl _, by simp⟩

/-- A text that stands alone gives way to a reference. -/
theorem ReadsLike.swap (h : ReadsLike (before ++ quote :: (body ++ quote :: after)) after after')
    (halone : StandsAlone before quote body after) (hquote : quote = '"' ∨ quote = '\'')
    (hfront : front <:+ before) (hname : IsPlain name) :
    ReadsLike (before ++ quote :: (body ++ quote :: after))
      (front ++ quote :: (body ++ quote :: after)) (front ++ (referenceText name ++ after')) := by
  refine ⟨fun {n m line ts us atStart margins awaited} hsteps hreads => ?_⟩
  obtain ⟨_, usText, lineText, awaitedText, hmeets, hloose, hroom⟩ := halone.loose
  obtain ⟨k, vs, marginsText, hgap, rfl⟩ := hmeets.comes hquote hsteps
  have hquoted := startsApart_withLineFeeds hquote (body ++ quote :: after)
  have href : StartsApart (withLineFeeds (referenceText name ++ after')) :=
    withLineFeeds_reference hname ▸ startsApart_reference name _
  have hfree : EndsIn IsFree (Text.unifyLineEnds front) :=
    isFree_unifyLineEnds (halone.free.suffix hfront)
  have hgap' := hgap.moved (withLineFeeds_whole _)
    (withLineFeeds_apart (startsApart_quote hquote _)) (List.nil_append _).symm
    (.apart hfree hquoted) (.apart hfree href) (fun _ => .inr ⟨hquoted, href⟩) 0
  rw [down_zero, ← withLineFeeds_apart (startsApart_reference name after'), List.nil_append,
    withLineFeeds_reference hname] at hgap'
  -- behind the text and behind the reference the reader is in the same state
  have htext := hgap.trans (.one (.token hmeets.token))
  obtain ⟨i, us, hus, rfl⟩ := hreads.behind htext
  obtain rfl : us = usText := by
    have htokens := ((hsteps.trans htext).reads hus).tokens? (withLineFeeds_whole _)
    rw [hmeets.tokens] at htokens
    simpa using htokens.symm
  obtain ⟨j, us', hus', hswaps⟩ := h.reads (hsteps.trans htext) hus
  rw [← List.append_assoc, lastLine_concat, if_neg (by simp), List.append_assoc,
    List.singleton_append, hloose.line] at hswaps
  have hswap : Swaps true (⟨.text ⟨false, false, false, body⟩, lineText⟩ :: us)
      (referenceTokens name lineText ++ us') :=
    .swap (hasGoodEscapes_plain hname) hloose.behind hswaps
  refine ⟨_, _, hgap'.reads ((steps_reference hname marginsText lineText hroom).reads hus'), ?_⟩
  rw [List.append_assoc, List.singleton_append]
  refine Swaps.append_left ?_ (hloose.before.suffix (List.suffix_append _ _))
  rw [hloose.line]
  exact hswap

/-- A script that reads like another one is a script, too. -/
theorem ReadsLike.read? (h : ReadsLike s s t) {statements : List Statement}
    (hread : read? s = some statements) (hnull : '\x00' ∉ t) :
    ∃ statements', Script.read? t = some statements' := by
  obtain ⟨-, ts, hts, -, -⟩ := read?_eq_some.1 hread
  obtain ⟨n, hreads⟩ := exists_reads_of_tokens? hts
  obtain ⟨k, us, hus, hswaps⟩ := h.reads (.refl _) hreads
  exact read?_of_swaps hread hts (hus.tokens? (withLineFeeds_whole t)) hswaps hnull

end

end SecretScan.Script

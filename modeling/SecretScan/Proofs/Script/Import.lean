import SecretScan.Proofs.Script.FirstLines
import SecretScan.Proofs.Script.LineFeeds

/-!
# A script with the import

A script that imports nothing under the name of the module with the variables gets an import. The
lines in front of it are counted as all readers count them that know every line end, and the
numbers of the statements' lines are not counted so. Where both agree and no statement goes on
behind these lines, the script has one more statement than before (`withVariables_imports`); else
the import may end up inside of a text (`withVariables_splits_text`).

The tokens of the lines in front are the same as before, then come those of the import, and then
those of the other lines, further down (`tokens_insertImport`). The statements of the lines in front
are read without regard to what is behind them, and the others are alike.
-/

namespace SecretScan.Script

/-- What the import says. -/
def importContent : StatementKind × List Token :=
  (.imports [⟨[variablesModule], none⟩], [.sign "import", .name variablesModule])

/-- What statements say that have an import among them, and else say what others say. -/
inductive WithImport (contents : List (StatementKind × List Token)) :
    List (StatementKind × List Token) → Prop
  | same : WithImport contents contents
  | inserted {before after : List (StatementKind × List Token)} : contents = before ++ after →
      WithImport contents (before ++ importContent :: after)

/-- A script that imports the module with the variables, has otherwise the given statements, and
needs nothing more. -/
structure Imports (statements : List Statement) (t : List Char) : Prop where
  reads : ∃ statements', read? t = some statements' ∧
    statements'.any (·.bindsVariables) = true ∧
    WithImport (statements.map Statement.content) (statements'.map Statement.content)
  stable : withVariables t = .ok t

/-! ## Tokens -/

/-- The tokens of the import. -/
def importTokens (line : Nat) : List Lexeme :=
  [⟨.sign "import", line⟩, ⟨.name variablesModule, line⟩, ⟨.newline, line⟩]

section

variable {s y y' : List Char} {n line : Nat} {ts us : List Lexeme} {r : Reader}

theorem reads_blank (line : Nat) (hy : IsBlank y) : ∃ n, Reads n (.atLine y line) [] := by
  have hends : ∀ line, Ends (.atLine [] line) [] := fun line =>
    ⟨rfl, {}, ⟨[], line, []⟩, [], [{}], rfl, rfl, rfl, rfl⟩
  rcases hy with rfl | rfl
  · exact ⟨0, [], _, [], .refl _, hends line, rfl⟩
  · refine ⟨1, [], .atLine [] (line + 1), [], .one ?_, hends _, rfl⟩
    exact .blank (p := ⟨['\n'], line, []⟩) (q := ⟨['\n'], line, []⟩) rfl rfl

/-- The lines behind the import are read as before, further down. -/
theorem Reads.sameRest (h : Reads n (.atLine y line) ts) (hy : IsWhole y) (hrest : SameRest y y')
    (k : Nat) : ∃ m, Reads m (.atLine y' (line + k)) (ts.map (·.down k)) := by
  rcases hrest with rfl | ⟨hy, hy'⟩
  · exact ⟨n, h.moved hy k⟩
  · obtain ⟨m, hm⟩ := reads_blank line hy
    rw [h.unique hm]
    exact reads_blank _ hy'

/-- The line with the import is read by itself, and so is an empty line in front of it. -/
theorem steps_import (line : Nat) {pad : List Char} (hpad : IsBlank pad) :
    ∃ n, Steps n (.atLine (pad ++ ("import os\n".toList ++ y)) line)
      (importTokens (line + pad.length)) (.atLine y (line + pad.length + 1)) := by
  have himport : ∀ line, Steps 5 (.atLine ("import os\n".toList ++ y) line) (importTokens line)
      (.atLine y (line + 1)) := by
    intro line
    have hmargin : Step (.atLine ("import os\n".toList ++ y) line) []
        ⟨false, [{}], ⟨"import os\n".toList ++ y, line, []⟩⟩ :=
      .margin (p := ⟨"import os\n".toList ++ y, line, []⟩)
        (q := ⟨"import os\n".toList ++ y, line, []⟩) rfl rfl (by simp)
        (rfl : Margin.settle {} [{}] = some ([], [{}]))
    have hword : readToken ⟨"import os\n".toList ++ y, line, []⟩ =
        some (.sign "import", ⟨" os\n".toList ++ y, line, []⟩) := rfl
    have hname : readToken ⟨"os\n".toList ++ y, line, []⟩ =
        some (.name "os", ⟨'\n' :: y, line, []⟩) := rfl
    have hgap : Step ⟨false, [{}], ⟨" os\n".toList ++ y, line, []⟩⟩ []
        ⟨false, [{}], ⟨"os\n".toList ++ y, line, []⟩⟩ := .gap rfl (.inl rfl)
    have hend : Step ⟨false, [{}], ⟨'\n' :: y, line, []⟩⟩ [⟨.newline, line⟩] (.atLine y (line + 1)) :=
      .newline rfl rfl
    exact .more hmargin (.more (.token hword) (.more hgap (.more (.token hname) (.one hend))))
  rcases hpad with rfl | rfl
  · exact ⟨5, himport line⟩
  · have hblank : Step (.atLine ('\n' :: ("import os\n".toList ++ y)) line) []
        (.atLine ("import os\n".toList ++ y) (line + 1)) :=
      .blank (p := ⟨'\n' :: ("import os\n".toList ++ y), line, []⟩)
        (q := ⟨'\n' :: ("import os\n".toList ++ y), line, []⟩) rfl rfl
    exact ⟨6, Steps.more hblank (himport (line + 1))⟩

end

/-! ## Lines in front -/

section

variable {s y : List Char} {lines behind : List (List Char)} {ts : List Lexeme}

theorem count_fedLines (lines : List (List Char)) : (fedLines lines).count '\n' = lines.length := by
  induction lines with
  | nil => rfl
  | cons line lines ih =>
      have hbody : (lineBody line).count '\n' = 0 := by
        refine count_eq_zero_of_all (f := fun c => c != '\n' && c != '\r') ?_ (by decide)
        exact List.all_eq_true.1 List.all_takeWhile
      have hcons : fedLines (line :: lines) = lineBody line ++ ('\n' :: fedLines lines) := by
        simp [fedLines]
      rw [hcons, List.count_append, hbody, List.count_cons_self, ih, List.length_cons, Nat.zero_add]

theorem fedLines_whole (lines : List (List Char)) : IsWhole (fedLines lines) := by
  intro c hc
  rcases List.eq_nil_or_concat lines with rfl | ⟨lines, line, rfl⟩
  · cases hc
  · rw [List.concat_eq_append, fedLines, List.flatMap_append, List.flatMap_singleton,
      ← List.append_assoc, List.getLast?_concat] at hc
    exact (Option.some.inj hc).symm

/-- A text is cut in one way behind so many whole lines. -/
theorem whole_append_inj {a b c d : List Char} (ha : IsWhole a) (hc : IsWhole c)
    (hcount : a.count '\n' = c.count '\n') (h : a ++ b = c ++ d) : a = c ∧ b = d := by
  have hnil : ∀ {x y : List Char}, IsWhole (x ++ y) → (x ++ y).count '\n' = x.count '\n' → y = [] := by
    intro x y hwhole hcount
    by_contra hne
    have hpos := List.count_pos_iff.2 (IsWhole.newline_mem (hwhole.suffix ⟨x, rfl⟩) hne)
    rw [List.count_append] at hcount
    omega
  rcases List.append_eq_append_iff.1 h with ⟨x, rfl, rfl⟩ | ⟨x, rfl, rfl⟩
  · rw [hnil hc hcount.symm]
    simp
  · rw [hnil ha hcount]
    simp

/-- Comments are read without tokens. -/
theorem steps_comments (hlines : ∀ line ∈ lines, line.head? = some '#') (line : Nat) :
    ∃ n, Steps n (.atLine (fedLines lines ++ y) line) [] (.atLine y (line + lines.length)) := by
  induction lines generalizing line with
  | nil => exact ⟨0, .refl _⟩
  | cons comment lines ih =>
      obtain ⟨hcomment, hlines⟩ := List.forall_mem_cons.1 hlines
      obtain ⟨n, hn⟩ := ih hlines (line + 1)
      obtain ⟨rest, rfl⟩ := List.head?_eq_some_iff.1 hcomment
      have hbody : '\n' ∉ lineBody ('#' :: rest) := by
        intro hmem
        have hplain := List.all_eq_true.1 List.all_takeWhile _ hmem
        revert hplain
        decide
      have htext : fedLines (('#' :: rest) :: lines) ++ y =
          lineBody ('#' :: rest) ++ '\n' :: (fedLines lines ++ y) := by
        simp [fedLines]
      have hhead : ∃ more, lineBody ('#' :: rest) = '#' :: more := ⟨_, rfl⟩
      obtain ⟨more, hmore⟩ := hhead
      have hstep : Step (.atLine (fedLines (('#' :: rest) :: lines) ++ y) line) []
          (.atLine (afterLine (fedLines (('#' :: rest) :: lines) ++ y)) (line + 1)) := by
        refine .blank (p := ⟨fedLines (('#' :: rest) :: lines) ++ y, line, []⟩)
          (q := ⟨fedLines (('#' :: rest) :: lines) ++ y, line, []⟩) (m := {}) ?_ ?_
        · rw [htext, hmore]
          rfl
        · rw [htext, hmore]
          rfl
      have hafter : afterLine (fedLines (('#' :: rest) :: lines) ++ y) = fedLines lines ++ y := by
        rw [htext, afterLine_append hbody]
      rw [hafter] at hstep
      refine ⟨n + 1, ?_⟩
      rw [List.length_cons, ← Nat.add_assoc, Nat.add_right_comm]
      exact Steps.more hstep hn

end

/-- A text is cut between its lines, so that neither a token nor a statement is cut. -/
structure CutAt (s y : List Char) (line : Nat) (A W : List Lexeme)
    (front back : List Statement) : Prop where
  before : ∃ n, Steps n (.atLine s 1) A (.atLine y line)
  behind : ∃ n, Reads n (.atLine y line) W
  statements : ∃ i j, (A ++ W).length + 1 = i + j ∧ Statement.readAll i W = some back ∧
    ∀ m B, Statement.readAll (m + j) (A ++ B) = (Statement.readAll m B).map (front ++ ·)

section

variable {y : List Char} {lines : List (List Char)} {ts : List Lexeme} {statements : List Statement}

/-- A script is cut behind the comments at its beginning. -/
theorem cutAt_comments (hlines : ∀ line ∈ lines, line.head? = some '#')
    (htokens : tokens? (fedLines lines ++ y) = some ts)
    (hread : Statement.readAll (ts.length + 1) ts = some statements) :
    CutAt (fedLines lines ++ y) y (1 + lines.length) [] ts [] statements := by
  obtain ⟨n, hsteps⟩ := steps_comments (y := y) hlines 1
  obtain ⟨m, hreads⟩ := exists_reads_of_tokens? htokens
  obtain ⟨k, us, hbehind, rfl⟩ := hreads.behind hsteps
  exact ⟨⟨n, hsteps⟩, ⟨k, hbehind⟩, _, 0, rfl, hread, by simp⟩

/-- A script is cut behind the line on which the last one of its leading statements ends. -/
theorem cutAt_statements (hwhole : IsWhole (fedLines lines ++ y))
    (htokens : tokens? (fedLines lines ++ y) = some ts)
    (hread : Statement.readAll (ts.length + 1) ts = some statements)
    (hlead : Statement.Lead lines.length statements) (hend : ⟨.newline, lines.length⟩ ∈ ts) :
    ∃ A W front back, ts = A ++ W ∧ statements = front ++ back ∧
      CutAt (fedLines lines ++ y) y (1 + lines.length) A W front back := by
  obtain ⟨n, us, r', marks, hsteps, hends, rfl⟩ := exists_reads_of_tokens? htokens
  have hmem : ⟨.newline, lines.length⟩ ∈ us := by
    refine (List.mem_append.1 hend).resolve_right fun hmem => ?_
    rcases hends.marks _ hmem with h | h <;> cases h
  obtain ⟨i, j, A, W, margins, rest, rfl, hbefore, hbehind, hne, x, hx⟩ :=
    hsteps.exists_newline hwhole hmem
  -- the reader is behind as many lines as there are line feeds
  obtain ⟨hx, rfl⟩ : fedLines lines = x ++ ['\n'] ∧ y = rest := by
    have hcount := (hbefore.advances hwhole).line
    have hx : fedLines lines ++ y = x ++ '\n' :: rest := hx
    refine whole_append_inj (fedLines_whole lines) ?_ ?_ (by simpa using hx)
    · rintro c hc
      rw [List.getLast?_concat] at hc
      exact (Option.some.inj hc).symm
    · have hlines := count_fedLines lines
      have hline : lines.length + 1 + rest.count '\n' = 1 + (fedLines lines ++ y).count '\n' := hcount
      rw [hx, List.count_append, List.count_cons_self] at hline
      rw [hlines, List.count_append, List.count_singleton_self]
      omega
  have horder := hbefore.inOrder hwhole
  have hA : AreWhole A := (hbefore.areWhole rfl).1
  have hle : ∀ t ∈ A, t.line ≤ lines.length := fun t ht =>
    Nat.le_of_lt_succ (horder.lt hA t ht)
  rw [List.append_assoc] at hread
  obtain ⟨front, back, i', j', hij, rfl, hback, hfront⟩ :=
    Statement.readAll_front hA horder.sorted hle hread fun _ => hlead
  have hmargins : margins = [{}] :=
    hbefore.margins_eq (A := []) (fun _ => .nil)
      (Statement.no_marks horder.sorted hle hread fun _ => hlead)
  subst hmargins
  rw [Nat.add_comm] at hbefore hbehind
  exact ⟨A, W ++ marks, front, back, List.append_assoc _ _ _, rfl, ⟨i, hbefore⟩,
    ⟨j, W, r', marks, hbehind, hends, rfl⟩, i', j', List.append_assoc A W marks ▸ hij, hback,
    hfront⟩

end

/-! ## The script with the import -/

/-- The statement that the import is. -/
def importStatement (line : Nat) : Statement :=
  ⟨importContent.1, importContent.2, line⟩

section

variable {s y y' pad : List Char} {line k : Nat} {A W : List Lexeme} {front back : List Statement}
  {lines : List (List Char)}

theorem statements_import (self : Statement.Goal → Statement.Rule) (line : Nat) (W : List Lexeme) :
    Statement.statements self (importTokens line ++ W) = some ([importStatement line], W) := by
  have hown : ∀ kind, Statement.ofTokens kind (importTokens line ++ W) (⟨.newline, line⟩ :: W) =
      ⟨kind, importContent.2, line⟩ := by
    intro kind
    have htake : (importTokens line ++ W).take
        ((importTokens line ++ W).length - (⟨.newline, line⟩ :: W : List Lexeme).length) =
        [⟨.sign "import", line⟩, ⟨.name variablesModule, line⟩] := by
      rw [List.length_append, List.length_cons, importTokens, List.length_cons, List.length_cons,
        List.length_singleton, show 1 + 1 + 1 + W.length - (W.length + 1) = 2 by omega]
      rfl
    rw [Statement.ofTokens, htake]
    rfl
  have hsimple : Statement.simple (importTokens line ++ W) =
      some (importContent.1, ⟨.newline, line⟩ :: W) := rfl
  have hline : ∀ fuel, Statement.line (fuel + 1) (importTokens line ++ W) =
      some ([importStatement line], W) := by
    intro fuel
    rw [Statement.line, hsimple]
    simp only [Option.bind_eq_bind, Option.bind_some, hown]
    rfl
  exact hline 1

theorem areReadable_import (depth : Nat) :
    areReadable depth (A ++ (importTokens line ++ W.map (·.down k))) = areReadable depth (A ++ W) := by
  cases depth with
  | zero => rfl
  | succ depth =>
      simp only [areReadable, List.all_append, List.all_map, Lexeme.down, Function.comp_def,
        importTokens, List.all_cons, List.all_nil, Bool.and_self, Bool.true_and]

theorem formattedLength_import :
    formattedLength (A ++ (importTokens line ++ W.map (·.down k))) = formattedLength (A ++ W) := by
  simp [formattedLength, importTokens, Lexeme.down, List.foldl_append, Function.comp_def]

/-- Where a text is cut between its lines there is room for an import. -/
theorem CutAt.insert (h : CutAt (fedLines lines ++ y) y line A W front back)
    (hwhole : IsWhole (fedLines lines ++ y)) (hpad : IsBlank pad) (hrest : SameRest y y')
    (hwhole' : IsWhole (fedLines lines ++ (pad ++ ("import os\n".toList ++ y')))) :
    ∃ us line' back', tokens? (fedLines lines ++ (pad ++ ("import os\n".toList ++ y'))) = some us ∧
      Statement.readAll (us.length + 1) us = some (front ++ importStatement line' :: back') ∧
      back'.map Statement.content = back.map Statement.content ∧
      ∀ depth, areReadable depth us = areReadable depth (A ++ W) ∧
        formattedLength us = formattedLength (A ++ W) := by
  obtain ⟨n, hbefore⟩ := h.before
  obtain ⟨m, hbehind⟩ := h.behind
  obtain ⟨i, j, hij, hback, hfront⟩ := h.statements
  have hF := fedLines_whole lines
  have hsteps := hbefore.moved hwhole rfl (List.nil_append y).symm (.lines hF)
    (.lines hF : Seam _ (pad ++ ("import os\n".toList ++ y'))) (fun _ => .inl rfl) 0
  rw [down_zero] at hsteps
  obtain ⟨n', himport⟩ := steps_import (y := y') line hpad
  obtain ⟨m', hreads⟩ := hbehind.sameRest (hwhole.suffix ⟨_, rfl⟩) hrest (pad.length + 1)
  have htokens := (hsteps.reads (himport.reads hreads)).tokens? hwhole'
  have halike : List.Forall₂ (Lexeme.Alike fun a b => b = a + (pad.length + 1)) W
      (W.map (·.down (pad.length + 1))) :=
    List.forall₂_map_right_iff.2 (List.forall₂_same.2 fun _ _ => ⟨rfl, rfl⟩)
  obtain ⟨back', hback', hcontent⟩ := Statement.readAll_carries (Nat.le_add_right i 2)
    (exchangedLines_zero.2 halike) back hback
  refine ⟨_, line + pad.length, back', htokens, ?_, ?_, fun depth =>
    ⟨areReadable_import depth, formattedLength_import⟩⟩
  · have hlen : (A ++ (importTokens (line + pad.length) ++
        W.map (·.down (pad.length + 1)))).length + 1 = i + 2 + 1 + j := by
      rw [List.length_append] at hij
      simp only [List.length_append, importTokens, List.length_cons, List.length_nil,
        List.length_map]
      omega
    rw [hlen, hfront, Statement.readAll_cons (by simp [importTokens]), statements_import,
      Option.bind_some, hback']
    rfl
  · have heq : List.Forall₂ (fun s t : Statement => t.content = s.content) back back' :=
      (hcontent rfl).imp fun _ _ hst => hst.content.symm
    clear * - heq
    induction heq with
    | nil => rfl
    | cons hst _ ih => rw [List.map_cons, List.map_cons, hst, ih]

end

/-- The number of lines that are put in front of the import. -/
def importLine (s : List Char) (statements : List Statement) : Nat :=
  if leadingLines statements = 0 then leadingComments (Text.linesWithEnds s)
  else leadingLines statements

/-- The lines in front of the import are lines for the reader of tokens, too, and if they hold
statements no statement goes on behind them. -/
structure HasRoom (s : List Char) (statements : List Statement) : Prop where
  lines : ∃ lines behind, PlainLines s lines behind ∧ lines.length = importLine s statements
  ends : leadingLines statements ≠ 0 → ∃ ts, tokens? (withLineFeeds s) = some ts ∧
    ⟨.newline, leadingLines statements⟩ ∈ ts

section

variable {s t : List Char} {statements : List Statement}

theorem mem_insertImport {c : Char} {n : Nat} (h : c ∈ insertImport s n) :
    c ∈ s ∨ c ∈ "import os\r\n".toList := by
  have hline : ∀ ls : List (List Char), (∀ l ∈ ls, l ∈ Text.linesWithEnds s) → c ∈ ls.flatten →
      c ∈ s := by
    intro ls hls hc
    obtain ⟨l, hl, hc⟩ := List.mem_flatten.1 hc
    rw [← Text.linesWithEnds_flatten s]
    exact List.mem_flatten.2 ⟨l, hls l hl, hc⟩
  have hend : c ∈ lineEndOf s → c ∈ "import os\r\n".toList := by
    rcases lineEndOf_plain s with h | h <;> rw [h] <;> intro hc <;>
      simp only [List.mem_cons, List.not_mem_nil, or_false] at hc
    · rw [hc]
      decide
    · rcases hc with rfl | rfl <;> decide
  have himport : ∀ d ∈ "import ".toList ++ variablesModule.toList, d ∈ "import os\r\n".toList :=
    List.all_iff_forall_prop.1 (by decide)
  simp only [insertImport, List.append_assoc] at h
  rcases List.mem_append.1 h with h | h
  · exact .inl (hline _ (fun l => List.mem_of_mem_take) h)
  rcases List.mem_append.1 h with h | h
  · split at h
    · cases h
    · exact .inr (hend h)
  rw [← List.append_assoc] at h
  rcases List.mem_append.1 h with h | h
  · exact .inr (himport c h)
  rcases List.mem_append.1 h with h | h
  · exact .inr (hend h)
  · exact .inl (hline _ (fun l => List.mem_of_mem_drop) h)

/-- Where there is room for an import a script gets it. -/
theorem read?_insertImport (hread : read? s = some statements) (hroom : HasRoom s statements) :
    ∃ statements', read? (insertImport s (importLine s statements)) = some statements' ∧
      statements'.any (·.bindsVariables) = true ∧
      WithImport (statements.map Statement.content) (statements'.map Statement.content) := by
  obtain ⟨hnull, ts, htokens, hstatements, hreadable⟩ := read?_eq_some.1 hread
  obtain ⟨lines, behind, hplain, hlines⟩ := hroom.lines
  obtain ⟨pad, y, y', hs, ht, hpad, hrest⟩ := withLineFeeds_insertImport hplain
  have hwhole : IsWhole (fedLines lines ++ y) := hs ▸ withLineFeeds_whole s
  have hwhole' := ht ▸ withLineFeeds_whole (insertImport s lines.length)
  rw [hs] at htokens
  obtain ⟨A, W, front, back, rfl, rfl, hcut⟩ : ∃ A W front back, ts = A ++ W ∧
      statements = front ++ back ∧
      CutAt (fedLines lines ++ y) y (1 + lines.length) A W front back := by
    by_cases hleading : leadingLines statements = 0
    · rw [importLine, if_pos hleading] at hlines
      have hcomments : ∀ line ∈ lines, line.head? = some '#' := by
        have heq : (Text.linesWithEnds s).takeWhile (fun line => line.head? = some '#') = lines :=
          (List.prefix_of_prefix_length_le (List.takeWhile_prefix _) ⟨behind, hplain.cut.symm⟩
            hlines.ge).eq_of_length hlines.symm
        intro line hline
        rw [← heq] at hline
        exact of_decide_eq_true (List.all_eq_true.1 List.all_takeWhile line hline)
      exact ⟨[], ts, [], statements, rfl, rfl, cutAt_comments hcomments htokens hstatements⟩
    · rw [importLine, if_neg hleading] at hlines
      obtain ⟨ts', htokens', hend⟩ := hroom.ends hleading
      rw [hs, htokens, Option.some.injEq] at htokens'
      subst htokens'
      rw [← hlines] at hend
      exact cutAt_statements hwhole htokens hstatements (hlines ▸ lead_leadingLines hleading) hend
  obtain ⟨us, line, back', hus, hread', hcontent, hsame⟩ := hcut.insert hwhole hpad hrest hwhole'
  rw [← hlines]
  refine ⟨_, read?_eq_some.2 ⟨?_, us, ht ▸ hus, hread', ?_⟩, ?_, ?_⟩
  · intro hmem
    rcases mem_insertImport hmem with h | h
    · exact hnull h
    · revert h
      decide
  · rw [(hsame 0).2, (hsame _).1]
    exact hreadable
  · simp [importStatement, importContent, Statement.bindsVariables, ImportedModule.bindsVariables]
  · rw [List.map_append, List.map_append, List.map_cons, hcontent]
    exact .inserted rfl

/-- A script is left as it is or gets an import. -/
theorem withVariables_of_read? (hread : read? s = some statements) :
    withVariables s = .ok (if statements.any (·.bindsVariables) then s
      else insertImport s (importLine s statements)) := by
  have hnull : s.contains '\x00' = false := by simpa using (read?_eq_some.1 hread).1
  simp only [withVariables, hnull, hread, Bool.false_eq_true, if_false, importLine]
  split <;> rfl

/-- A script without an import of the module with the variables gets one where there is room for
it; it is a script then that has otherwise the same statements, and is left as it is. -/
theorem withVariables_imports (hread : read? s = some statements)
    (hroom : statements.any (·.bindsVariables) = false → HasRoom s statements) :
    ∃ t, withVariables s = .ok t ∧ Imports statements t := by
  have hstable : ∀ {u : List Char} {ss : List Statement}, read? u = some ss →
      ss.any (·.bindsVariables) = true → withVariables u = .ok u := by
    intro u ss hu hbinds
    rw [withVariables_of_read? hu, if_pos hbinds]
  cases hbinds : statements.any (·.bindsVariables) with
  | true =>
      exact ⟨s, hstable hread hbinds, ⟨statements, hread, hbinds, .same⟩, hstable hread hbinds⟩
  | false =>
      obtain ⟨statements', hread', hbinds', hcontent⟩ := read?_insertImport hread (hroom hbinds)
      refine ⟨insertImport s (importLine s statements), ?_,
        ⟨statements', hread', hbinds', hcontent⟩, hstable hread' hbinds'⟩
      rw [withVariables_of_read? hread, hbinds]
      rfl

end

/-- A script with a description, an import that comes first, and other line ends. -/
def describedText : List Char :=
  "\"\"\"about\"\"\"\r\nfrom __future__ import annotations\r\nx = 1\r\n".toList

theorem withVariables_imports_described : ∃ statements, read? describedText = some statements ∧
    (statements.any (·.bindsVariables) = false → HasRoom describedText statements) ∧
    ∃ t, withVariables describedText = .ok t ∧ Imports statements t := by
  have hscript : (read? describedText).map leadingLines = some 2 := by decide +kernel
  have hends : (tokens? (withLineFeeds describedText)).any (⟨.newline, 2⟩ ∈ ·) = true := by
    decide +kernel
  have hall : ((Text.linesWithEnds describedText).take 2).all (fun line =>
      line.all fun c => decide (Text.isLineEnd c = true → c = '\n' ∨ c = '\r')) = true := by
    decide +kernel
  have hplain : PlainLines describedText ((Text.linesWithEnds describedText).take 2)
      ((Text.linesWithEnds describedText).drop 2) :=
    ⟨(List.take_append_drop _ _).symm, fun line hline c hc =>
      of_decide_eq_true (List.all_eq_true.1 (List.all_eq_true.1 hall line hline) c hc)⟩
  have hcount : ((Text.linesWithEnds describedText).take 2).length = 2 := by decide +kernel
  obtain ⟨statements, hread, hleading⟩ := Option.map_eq_some_iff.1 hscript
  obtain ⟨ts, htokens, hend⟩ := (Option.any_eq_true _ _).1 hends
  have hroom : HasRoom describedText statements :=
    ⟨⟨_, _, hplain, by rw [hcount, importLine, hleading]; rfl⟩,
      fun _ => ⟨ts, htokens, hleading ▸ of_decide_eq_true hend⟩⟩
  exact ⟨statements, hread, fun _ => hroom, withVariables_imports hread fun _ => hroom⟩

/-- A description with a form feed in it. -/
def splitText : List Char := "\"\"\"a\x0cb\"\"\"\nimport sys\n".toList

/-- The line of the description is cut at the form feed, and the import put into the text. -/
theorem withVariables_splits_text : ¬∀ s statements, read? s = some statements →
    ∃ t, withVariables s = .ok t ∧ Imports statements t := by
  intro h
  have hscript : (read? splitText).isSome = true := by decide +kernel
  have hlost : ((withVariables splitText).toOption.bind read?).any
      (·.any (·.bindsVariables)) = false := by decide +kernel
  obtain ⟨statements, hread⟩ := Option.isSome_iff_exists.1 hscript
  obtain ⟨t, ht, himports⟩ := h splitText statements hread
  obtain ⟨statements', hread', hbinds, -⟩ := himports.reads
  rw [ht] at hlost
  change ((read? t).any fun ss => ss.any (·.bindsVariables)) = false at hlost
  rw [hread', Option.any_some, hbinds] at hlost
  cases hlost

end SecretScan.Script

import SecretScan.Catalog.Secrets
import SecretScan.Proofs.Rewrite.Soundness
import SecretScan.Proofs.Scan.Order
import SecretScan.Proofs.Scan.Places

/-!
# The place of a finding, read in two ways

The scanner cuts a text into lines and matches within them. The rewriter never sees these lines:
it lists where line feeds end in the text as a whole (`lineStarts_eq_breaks`), and adds the column
of a finding to what it finds in this list. Both mean the same place (`positions_agree`).
-/

namespace SecretScan.Rewrite

open Pattern Text

theorem matchAt?_break (before after : List Char) (pos : Nat) (c : Char) :
    (text "\n").matchAt? false ⟨before, c :: after, pos⟩ =
      if c = '\n' then some ⟨before, pos, [c], after, []⟩ else none := by
  have hholds : (CharTest.exactly .exact '\n').holds c = decide (c = '\n') := by
    simp [CharTest.holds, CharTest.same, Folding.hasCase, beq_eq_decide]
  show (one (.exactly .exact '\n')).matchAt? false ⟨before, c :: after, pos⟩ = _
  rw [matchAt?_false, ways, hholds]
  by_cases hc : c = '\n'
  · simp [hc, matchOf]
  · simp [hc]

theorem lineStarts_eq_breaks (s before : List Char) (pos : Nat) :
    lineStarts pos (lines s) = pos :: ((text "\n").collect before pos 0 s).map Match.stop := by
  induction s generalizing before pos with
  | nil => rfl
  | cons c s ih =>
      by_cases hc : c = '\n'
      · subst hc
        rw [lineStarts_break, ih ('\n' :: before), collect, matchAt?_break, if_pos rfl]
        rfl
      · obtain ⟨starts, hstarts⟩ := lineStarts_lines pos (c :: s)
        have htail := lineStarts_tail hc pos s
        rw [hstarts, ih (c :: before), List.tail_cons, List.tail_cons] at htail
        rw [hstarts, htail, collect, matchAt?_break, if_neg hc]

/-- What a rule finds stands in the text where the scanner says. -/
theorem standsAt_of_ofRules {catalog : Catalog} {file : String} {s : List Char} {g : Finding}
    (hg : g ∈ Scan.ofRules catalog file s) :
    ∃ (k n : Nat) (u w v : List Char), g.line = k + 1 ∧ (lineStarts 0 (lines s))[k]? = some n ∧
      (n : Int) + g.column - 1 = u.length ∧ s = u ++ (w ++ v) ∧ g.key = String.ofList w ∧
      '\n' ∉ w ∧ w ≠ [] ∧ g.shown = Finding.clip 100 g.key := by
  obtain ⟨k, line, hline, rule, -, m, hm, hreported, rfl⟩ := Scan.mem_ofRules.1 hg
  obtain ⟨n, hstart⟩ := exists_lineStart hline 0
  have hspot : (n + m.start, m.text) ∈ textSpots rule.pattern 0 s :=
    mem_lineSpots.2 ⟨k, n, line, hstart, hline, m, hm, rfl⟩
  obtain ⟨u, v, hs, hu, hbreak⟩ := textSpots_occurs hspot
  have hkey := Scan.key_ruleFinding hreported file (1 + k) rule
  refine ⟨k, n, u, m.text, v, ?_, hstart, ?_, hs, hkey, hbreak, ?_, ?_⟩
  · show ((1 + k : Nat) : Int) = k + 1
    omega
  · show (n : Int) + ((m.start : Int) + 1) - 1 = u.length
    omega
  · rintro hnone
    simp [Scan.isReported, hnone] at hreported
  · rw [hkey]
    rfl

/-- The rewriter takes the places where line feeds end for the beginnings of the lines. What a rule
finds on a line is in the text right there: its column is counted from the place that the rewriter
has for its line, it goes over no line feed, and what is shown of it are its first 100 characters.
So a claim to rewrite it spans just that. -/
theorem positions_agree {catalog : Catalog} {filter : SeverityFilter} {file text : String}
    {g : Finding} (hg : g ∈ Scan.ofRules (catalog.passing filter) file text.toList) :
    let s := text.toList
    let starts := 0 :: ((Pattern.text "\n").allIn s).map Match.stop
    g ∈ Scan.content catalog filter file text ∧ lineStarts 0 (lines s) = starts ∧
    ∃ k n a : Nat, g.line = k + 1 ∧ starts[k]? = some n ∧ (n : Int) + g.column - 1 = a ∧
      (s.drop a).take g.key.length = g.key.toList ∧ 0 < g.key.length ∧ '\n' ∉ g.key.toList ∧
      g.shown.toList = g.key.toList.take 100 ∧
      ∀ mapping index c, claim? starts mapping index g = some c →
        c.start = a ∧ c.stop = a + g.key.length := by
  intro s starts
  have hstarts : lineStarts 0 (lines s) = starts := lineStarts_eq_breaks s [] 0
  obtain ⟨k, n, u, w, v, hline, hstart, hcolumn, hs, hkey, hbreak, hsome, hshown⟩ :=
    standsAt_of_ofRules hg
  rw [hstarts] at hstart
  refine ⟨?_, hstarts, k, n, u.length, hline, hstart, hcolumn, ?_, ?_, ?_, ?_, ?_⟩
  · exact (Scan.content_perm catalog filter file text).symm.subset (List.mem_append_left _ hg)
  · rw [hkey, String.length_ofList, String.toList_ofList]
    show (text.toList.drop u.length).take w.length = w
    rw [hs, List.drop_left, List.take_left]
  · rw [hkey, String.length_ofList]
    exact List.length_pos_iff.2 hsome
  · rwa [hkey, String.toList_ofList]
  · rw [hshown, Finding.clip, String.toList_ofList]
  · intro mapping index c hc
    obtain ⟨name, line, lineStart, -, hline', hstart', rfl⟩ := claim?_eq_some hc
    obtain rfl : line = k := by omega
    obtain rfl := Option.some.inj (hstart.symm.trans hstart')
    exact ⟨hcolumn, congrArg (· + (g.key.length : Int)) hcolumn⟩

/-- An address behind a separator that ends no line, on a last line that is not ended. -/
theorem positions_agree_separator :
    let text := "a\r\n\u2028 b = \"redis://h\""
    let g : Finding :=
      { file := "a.js", line := 2, column := 8, shown := "redis://h", rule := "Database URL"
        severity := .error, message := "Database connection string found"
        fix := "Use environment variable: process.env.DATABASE_URL"
        matched := "redis://h", secret := "redis://h" }
    g ∈ Scan.ofRules (Secrets.catalog.passing .all) "a.js" text.toList ∧
      g ∈ Scan.content Secrets.catalog .all "a.js" text ∧
      (text.toList.drop 10).take g.key.length = g.key.toList := by
  intro text g
  have hg : g ∈ Scan.ofRules (Secrets.catalog.passing .all) "a.js" text.toList := by decide +kernel
  obtain ⟨hcontent, hstarts, k, n, a, hline, hstart, hcolumn, htext, -⟩ := positions_agree hg
  have hline : (2 : Int) = k + 1 := hline
  obtain rfl : k = 1 := by omega
  have hsecond : (lineStarts 0 (lines text.toList))[1]? = some 3 := by decide +kernel
  rw [hstarts, hstart] at hsecond
  obtain rfl := Option.some.inj hsecond
  have hcolumn : (3 : Int) + 8 - 1 = a := hcolumn
  obtain rfl : a = 10 := by omega
  exact ⟨hg, hcontent, htext⟩

end SecretScan.Rewrite

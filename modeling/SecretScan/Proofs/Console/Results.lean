import SecretScan.Console.Results
import SecretScan.Proofs.Console.Entry
import SecretScan.Proofs.Console.Tags
import SecretScan.Proofs.Scan.Project

/-!
# What a console shows of findings

In the row of a finding the path and the match are escaped, and severity and position have no
markup. The name and the advice of the rule stand in the row as the rule has them, so they are
shown as they are only if they are plain (`row_shown`), and the row cannot be shown if they have a
tag that cannot be followed (`row_followed_iff`).

The lines below the table are in a style. A line of ordinary text closes the style that it opens,
and so does the line about a file that could not be read, whatever the file is called
(`problemLine_shown`). So on any lawful console the texts of rules alone decide whether the results
of a scan are shown (`results_shown`, `project_problems_shown`).
-/

namespace SecretScan.Console

open CommandLine (Session Step)

theorem isOrdinary_position (f : Finding) : IsOrdinary (position f) := by
  obtain ⟨hline, hlineCount⟩ := (isNumeral_int f.line).isOrdinary
  obtain ⟨hcolumn, hcolumnCount⟩ := (isNumeral_int f.column).isOrdinary
  have hcolon : IsOrdinary (toString f.line ++ ":") :=
    hline.append (by decide) (by rw [hlineCount]; decide)
  refine hcolon.append hcolumn ?_
  rw [String.toList_append, List.count_append, hlineCount, hcolumnCount]
  decide

/-- The table of findings with rows for them, if there are any. -/
def tableOf (findings : List Finding) (rows : List (List String)) : List Entry :=
  if findings.isEmpty then [] else [.table "Findings" findingColumns rows]

/-- A row with all texts of a finding as they are. -/
def verbatimRow (base : String) (f : Finding) : List String :=
  [f.severity.name, Report.shortPath f.file base, position f, f.rule,
    Finding.clip matchWidth f.shown, f.fix]

/-! ## On any console -/

section Any

variable [Markup] {base : String} {findings : List Finding}

/-- A row that shows a finding: its severity and its position as they are, its path and its match
as the console shows them escaped, and the name and the advice of its rule as marked-up text. -/
def Shows (base : String) (f : Finding) (row : List String) : Prop :=
  ∃ path rule matched fix : String, row = [f.severity.name, path, position f, rule, matched, fix] ∧
    Markup.shown? (Markup.escape (Report.shortPath f.file base)) = some path ∧
    Markup.shown? f.rule = some rule ∧
    Markup.shown? (Markup.escape (Finding.clip matchWidth f.shown)) = some matched ∧
    Markup.shown? f.fix = some fix

/-- A finding whose texts are all shown as they are. -/
structure IsVerbatim (base : String) (f : Finding) : Prop where
  path : IsSafe (Report.shortPath f.file base)
  rule : IsPlain f.rule
  matched : IsSafe (Finding.clip matchWidth f.shown)
  fix : IsPlain f.fix

/-- A finding in whose texts a console finds nothing to do, and at most tags in those that are
escaped. -/
structure IsHarmless (base : String) (f : Finding) : Prop where
  path : IsQuiet (Report.shortPath f.file base)
  rule : IsOrdinary f.rule
  matched : IsQuiet (Finding.clip matchWidth f.shown)
  fix : IsOrdinary f.fix

theorem Shows.eq_verbatimRow_iff {f : Finding} {row : List String} (h : Shows base f row) :
    row = verbatimRow base f ↔ IsVerbatim base f := by
  obtain ⟨path, rule, matched, fix, rfl, hpath, hrule, hmatched, hfix⟩ := h
  have hverbatim : IsVerbatim base f ↔ path = Report.shortPath f.file base ∧ rule = f.rule ∧
      matched = Finding.clip matchWidth f.shown ∧ fix = f.fix := by
    constructor
    · rintro ⟨hpath', hrule', hmatched', hfix'⟩
      exact ⟨Option.some.inj (hpath.symm.trans hpath'), Option.some.inj (hrule.symm.trans hrule'),
        Option.some.inj (hmatched.symm.trans hmatched'), Option.some.inj (hfix.symm.trans hfix')⟩
    · rintro ⟨rfl, rfl, rfl, rfl⟩
      exact ⟨hpath, hrule, hmatched, hfix⟩
  rw [hverbatim, verbatimRow]
  simp

theorem rows_eq_verbatimRows_iff {rows : List (List String)}
    (h : List.Forall₂ (Shows base) findings rows) :
    rows = findings.map (verbatimRow base) ↔ ∀ f ∈ findings, IsVerbatim base f := by
  induction h with
  | nil => simp
  | cons hrow _ ih =>
      rw [List.map_cons, List.cons.injEq, List.forall_mem_cons, hrow.eq_verbatimRow_iff, ih]

theorem tableOf_shown {rows shown : List (List String)}
    (h : rows.mapM (List.mapM Markup.shown?) = some shown) :
    (tableOf findings rows).mapM Entry.shown? = some (tableOf findings shown) := by
  rw [tableOf, tableOf]
  split
  · rfl
  · rw [List.mapM_cons, List.mapM_nil, Entry.shown?, h]
    rfl

theorem tableOf_followed_iff :
    (∀ entry ∈ tableOf findings (findings.map (findingRow base)), entry.shown? ≠ none) ↔
      ∀ f ∈ findings, (findingRow base f).mapM Markup.shown? ≠ none := by
  cases findings with
  | nil => simp [tableOf]
  | cons f findings =>
      change (∀ entry ∈ [Entry.table _ _ _], _) ↔ _
      rw [List.forall_mem_singleton, table_followed_iff, List.forall_mem_map]

/-- Lines of text are shown as lines of text. -/
theorem texts_shown {entries : List Entry} (htexts : ∀ entry ∈ entries, ∃ s, entry = .text s)
    (hfollowed : ∀ entry ∈ entries, entry.shown? ≠ none) :
    ∃ lines : List String, entries.mapM Entry.shown? = some (lines.map .text) := by
  induction entries with
  | nil => exact ⟨[], rfl⟩
  | cons entry entries ih =>
      obtain ⟨⟨s, rfl⟩, htexts'⟩ := List.forall_mem_cons.1 htexts
      obtain ⟨hs, hfollowed'⟩ := List.forall_mem_cons.1 hfollowed
      obtain ⟨line, hline⟩ := Option.ne_none_iff_exists'.1 (text_followed_iff.1 hs)
      obtain ⟨lines, hlines⟩ := ih htexts' hfollowed'
      refine ⟨line :: lines, ?_⟩
      rw [List.mapM_cons, hlines, Entry.shown?, hline]
      rfl

theorem mem_problemLines {all : List FileResult} {entry : Entry} :
    entry ∈ problemLines base all ↔
      ∃ r ∈ all, ∃ problem, r.problem? = some problem ∧
        problemLine base r.file problem = entry := by
  simp only [problemLines, List.mem_filterMap, Option.map_eq_some_iff]

/-- A line of text that can be shown. -/
def IsLine (entry : Entry) : Prop := (∃ s, entry = .text s) ∧ entry.shown? ≠ none

end Any

/-! ## On a lawful console -/

section Lawful

variable [Markup] [LawfulMarkup] {base : String}

theorem shown?_styled {name s : String} (hname : IsName name) (hs : IsOrdinary s) :
    Markup.shown? (styled name s) = some s := by
  have h : Markup.shown? ("" ++ styled name s) = some ("" ++ s) :=
    LawfulMarkup.styled hname (by rwa [String.empty_append])
  rwa [String.empty_append, String.empty_append] at h

@[simp]
theorem shown?_severity (severity : Severity) :
    Markup.shown? (styled (color severity) severity.name) = some severity.name := by
  cases severity <;> exact shown?_styled (by decide) (by decide)

@[simp]
theorem shown?_position (f : Finding) : Markup.shown? (position f) = some (position f) :=
  LawfulMarkup.ordinary (isOrdinary_position f)

theorem row_shown {f : Finding} {row : List String}
    (h : (findingRow base f).mapM Markup.shown? = some row) : Shows base f row := by
  have hcells := forall₂_of_mapM h
  simp only [findingRow, List.forall₂_cons_left_iff, List.forall₂_nil_left_iff] at hcells
  obtain ⟨_, _, hseverity, ⟨_, _, hpath, ⟨_, _, hposition, ⟨_, _, hrule, ⟨_, _, hmatched,
    ⟨_, _, hfix, rfl, rfl⟩, rfl⟩, rfl⟩, rfl⟩, rfl⟩, rfl⟩ := hcells
  obtain rfl := Option.some.inj ((shown?_severity f.severity).symm.trans hseverity)
  obtain rfl := Option.some.inj ((shown?_position f).symm.trans hposition)
  exact ⟨_, _, _, _, rfl, hpath, hrule, hmatched, hfix⟩

theorem row_followed_iff {f : Finding} :
    (findingRow base f).mapM Markup.shown? ≠ none ↔
      Markup.shown? f.rule ≠ none ∧ Markup.shown? f.fix ≠ none := by
  rw [mapM_ne_none_iff, findingRow]
  simp [LawfulMarkup.escaped_shown]

theorem IsHarmless.isVerbatim {f : Finding} (h : IsHarmless base f) : IsVerbatim base f where
  path := LawfulMarkup.escaped h.path
  rule := LawfulMarkup.ordinary h.rule
  matched := LawfulMarkup.escaped h.matched
  fix := LawfulMarkup.ordinary h.fix

/-- The line about a file can be shown whatever the file is called, if what is said of it is
ordinary. -/
theorem problemLine_shown (base file : String) {problem : String}
    (h : IsOrdinary (": " ++ problem)) : (problemLine base file problem).shown? ≠ none := by
  rw [problemLine, text_followed_iff, String.append_assoc]
  exact LawfulMarkup.escaped_styled _ (by decide) h (by simp)

theorem isLine_styled {name s : String} (hname : IsName name) (h : IsOrdinary s) :
    IsLine (.text (styled name s)) := by
  refine ⟨⟨_, rfl⟩, text_followed_iff.2 ?_⟩
  rw [shown?_styled hname h]
  nofun

theorem isLine_summary (all : List FileResult) : ∀ entry ∈ summary all, IsLine entry := by
  have hcount : ∀ (n : Nat) {s : String}, IsOrdinary s → IsOrdinary (toString n ++ s) := by
    intro n s hs
    obtain ⟨hn, hzero⟩ := (isNumeral_nat n).isOrdinary
    exact hn.append hs (by rw [hzero, Nat.zero_add]; exact hs.1.2)
  intro entry hentry
  simp only [summary, List.mem_append] at hentry
  obtain ((hentry | hentry) | hentry) | hentry := hentry
  · obtain rfl := List.mem_singleton.1 hentry
    refine ⟨⟨_, rfl⟩, text_followed_iff.2 ?_⟩
    have hheader : "\n[bold]Summary[/bold]" = "\n" ++ styled "bold" "Summary" := by decide
    rw [hheader, LawfulMarkup.styled (by decide) (by decide)]
    nofun
  · split at hentry
    · cases hentry
    · obtain rfl := List.mem_singleton.1 hentry
      exact isLine_styled (by decide) (hcount _ (by decide))
  · split at hentry
    · cases hentry
    · obtain rfl := List.mem_singleton.1 hentry
      exact isLine_styled (by decide) (hcount _ (by decide))
  · split at hentry
    · obtain rfl := List.mem_singleton.1 hentry
      exact isLine_styled (by decide) (by decide)
    · cases hentry

/-- The table of findings comes first. What follows are lines of text, and only those about files
that could not be read need not be possible to show. -/
theorem results_eq (all : List FileResult) (base : String) : ∃ closing : List Entry,
    (∀ entry ∈ closing, IsLine entry) ∧
      results all base =
        tableOf (FileResult.flatten all) ((FileResult.flatten all).map (findingRow base)) ++
          (problemLines base all ++ closing) := by
  rw [results]
  split
  · next hnone =>
      rw [Bool.and_eq_true] at hnone
      have hgreeting : IsLine (.text (styled "green" "No secrets or sensitive data found!")) :=
        isLine_styled (by decide) (by decide)
      refine ⟨_, List.forall_mem_cons.2 ⟨hgreeting, isLine_summary all⟩, ?_⟩
      rw [tableOf, if_pos hnone.1, List.isEmpty_iff.1 hnone.2]
      rfl
  · exact ⟨summary all, isLine_summary all, List.append_assoc _ _ _⟩

/-- Results can be shown exactly if all rows can be, and the lines about files that could not be
read. -/
theorem showAll_results_ok_iff {all : List FileResult} {session : Session} :
    ((Step.showAll (results all base)).run.run session).1 = .ok () ↔
      (∀ f ∈ FileResult.flatten all, (findingRow base f).mapM Markup.shown? ≠ none) ∧
      ∀ entry ∈ problemLines base all, entry.shown? ≠ none := by
  obtain ⟨closing, hclosing, heq⟩ := results_eq all base
  rw [run_showAll_fst_eq_ok, heq, List.forall_mem_append, tableOf_followed_iff,
    List.forall_mem_append, and_iff_left fun entry hin => (hclosing entry hin).2]

/-- Results that can be shown are a table with a row for each finding, and lines. -/
theorem showAll_results_eq {all : List FileResult} {session : Session}
    (h : ((Step.showAll (results all base)).run.run session).1 = .ok ()) :
    ∃ (rows : List (List String)) (lines : List String),
      (Step.showAll (results all base)).run.run session =
        (.ok (), withShown session (tableOf (FileResult.flatten all) rows ++ lines.map .text)) ∧
      List.Forall₂ (Shows base) (FileResult.flatten all) rows := by
  obtain ⟨closing, hclosing, heq⟩ := results_eq all base
  obtain ⟨hrows, hproblems⟩ := showAll_results_ok_iff.1 h
  have htexts : ∀ entry ∈ problemLines base all ++ closing, ∃ s, entry = .text s := by
    refine List.forall_mem_append.2 ⟨fun entry hin => ?_, fun entry hin => (hclosing entry hin).1⟩
    obtain ⟨r, -, p, -, rfl⟩ := mem_problemLines.1 hin
    exact ⟨_, rfl⟩
  have hfollowed : ∀ entry ∈ problemLines base all ++ closing, entry.shown? ≠ none :=
    List.forall_mem_append.2 ⟨hproblems, fun entry hin => (hclosing entry hin).2⟩
  obtain ⟨rows, hrows⟩ := Option.ne_none_iff_exists'.1
    (mapM_ne_none_iff.2 (List.forall_mem_map.2 hrows))
  obtain ⟨lines, hlines⟩ := texts_shown htexts hfollowed
  have hshown : (results all base).mapM Entry.shown? =
      some (tableOf (FileResult.flatten all) rows ++ lines.map .text) := by
    rw [heq, List.mapM_append, tableOf_shown hrows, hlines]
    rfl
  exact ⟨rows, lines, run_showAll.2 ⟨_, hshown, rfl⟩,
    (List.forall₂_map_left_iff.1 (forall₂_of_mapM hrows)).imp fun f row => row_shown⟩

/-- Where a console finds nothing to do in the texts of findings, they are all shown as they are. -/
theorem showAll_results_verbatim {all : List FileResult} {session : Session}
    (hharmless : ∀ f ∈ FileResult.flatten all, IsHarmless base f)
    (hproblems : ∀ entry ∈ problemLines base all, entry.shown? ≠ none) :
    ∃ lines : List String, (Step.showAll (results all base)).run.run session =
      (.ok (), withShown session (tableOf (FileResult.flatten all)
        ((FileResult.flatten all).map (verbatimRow base)) ++ lines.map .text)) := by
  have hverbatim : ∀ f ∈ FileResult.flatten all, IsVerbatim base f :=
    fun f hf => (hharmless f hf).isVerbatim
  have hfollowed : ∀ f ∈ FileResult.flatten all, (findingRow base f).mapM Markup.shown? ≠ none := by
    intro f hf
    obtain ⟨-, hrule, -, hfix⟩ := hverbatim f hf
    rw [row_followed_iff, hrule, hfix]
    exact ⟨nofun, nofun⟩
  obtain ⟨rows, lines, hrun, hshows⟩ :=
    showAll_results_eq (showAll_results_ok_iff.2 ⟨hfollowed, hproblems⟩)
  rw [(rows_eq_verbatimRows_iff hshows).2 hverbatim] at hrun
  exact ⟨lines, hrun⟩

/-- Results can be shown exactly if the names and the advice of the rules can be, and the lines
about files that could not be read. Then the table has one row for each finding, in order, and it
has all their texts as they are exactly if the names and the advice are plain, and the paths and
the matches are safe. That is so where these texts are harmless. -/
theorem results_shown (all : List FileResult) (base : String) (session : Session) :
    (((Step.showAll (results all base)).run.run session).1 = .ok () ↔
      (∀ f ∈ FileResult.flatten all, Markup.shown? f.rule ≠ none ∧ Markup.shown? f.fix ≠ none) ∧
      ∀ entry ∈ problemLines base all, entry.shown? ≠ none) ∧
    (((Step.showAll (results all base)).run.run session).1 = .ok () ↔
      ∃ (rows : List (List String)) (lines : List String),
        (Step.showAll (results all base)).run.run session =
          (.ok (), withShown session
            (tableOf (FileResult.flatten all) rows ++ lines.map .text)) ∧
        List.Forall₂ (Shows base) (FileResult.flatten all) rows ∧
        (rows = (FileResult.flatten all).map (verbatimRow base) ↔
          ∀ f ∈ FileResult.flatten all, IsVerbatim base f)) ∧
    ((∀ f ∈ FileResult.flatten all, IsHarmless base f) →
      (∀ entry ∈ problemLines base all, entry.shown? ≠ none) →
      ∃ lines : List String, (Step.showAll (results all base)).run.run session =
        (.ok (), withShown session (tableOf (FileResult.flatten all)
          ((FileResult.flatten all).map (verbatimRow base)) ++ lines.map .text))) := by
  refine ⟨?_, ⟨fun h => ?_, ?_⟩, showAll_results_verbatim⟩
  · rw [showAll_results_ok_iff]
    simp only [row_followed_iff]
  · obtain ⟨rows, lines, hrun, hshows⟩ := showAll_results_eq h
    exact ⟨rows, lines, hrun, hshows, rows_eq_verbatimRows_iff hshows⟩
  · rintro ⟨rows, lines, hrun, -⟩
    rw [hrun]

/-- A tag in the name of a rule is missing from the table. -/
theorem Shows.rule_eq {f : Finding} {row : List String} {name before after : String}
    (h : Shows base f row) (hname : IsName name) (hrest : IsOrdinary (before ++ after))
    (hrule : f.rule = before ++ opening name ++ after) : row[3]? = some (before ++ after) := by
  obtain ⟨path, rule, matched, fix, rfl, -, hshown, -, -⟩ := h
  rw [hrule, LawfulMarkup.opened hname hrest] at hshown
  rw [Option.some.inj hshown]
  rfl

/-- With a name that closes a style there is no table. -/
theorem showAll_results_refused {all : List FileResult} {f : Finding}
    {name before after : String} (hf : f ∈ FileResult.flatten all) (hname : IsName name)
    (hbefore : IsOrdinary before) (hrule : f.rule = before ++ closing name ++ after)
    (session : Session) :
    ((Step.showAll (results all base)).run.run session).1 = .error .badMarkup := by
  have hno : ¬ ((Step.showAll (results all base)).run.run session).1 = .ok () := by
    intro h
    refine (row_followed_iff.1 ((showAll_results_ok_iff.1 h).1 f hf)).1 ?_
    rw [hrule, LawfulMarkup.unopened after hname hbefore]
  rw [run_showAll_fst] at hno ⊢
  exact if_neg fun h => hno (if_pos h)

/-- What is said of files that a scan could not read can always be shown. -/
theorem project_problems_shown {d : Files.Disk} {catalog : Catalog} {request : ScanRequest}
    {scan : Scan.Outcome} (h : Scan.project d catalog request = .ok scan) (base : String) :
    ∀ entry ∈ problemLines base scan.results, entry.shown? ≠ none := by
  intro entry hentry
  obtain ⟨r, hr, problem, hproblem, rfl⟩ := mem_problemLines.1 hentry
  obtain rfl | rfl := Scan.project_problem h hr hproblem
  · exact problemLine_shown base r.file (by decide)
  · exact problemLine_shown base r.file (by decide)

end Lawful

/-! ## Names with brackets -/

/-- A rule for a token. -/
def tokenRule (name : String) : Rule where
  name
  pattern := .text "tok_1"
  severity := .error
  message := "m"
  fix := Rule.defaultFix

/-- The text of rules with one for a token. -/
def tokenRules (name : String) : String :=
  "- \x7bname: '" ++ name ++ "', pattern: tok_1, severity: error, message: m\x7d\n"

/-- The results of scanning a file with a token in it. -/
def tokenResults (name : String) : List FileResult :=
  (Scan.ofText { Secrets.catalog with rules := [tokenRule name] } .all
    (FilePath.ofString "/app.js") "k = tok_1\n".toList).results

/-- The finding in that file. -/
def tokenFinding (name : String) : Finding where
  file := "/app.js"
  line := 1
  column := 5
  shown := "tok_1"
  rule := name
  severity := .error
  message := "m"
  fix := Rule.defaultFix
  matched := "tok_1"
  secret := "tok_1"

/-- A session in which nothing was done yet. -/
def newSession : Session := { disk := { tree := .directory [] } }

theorem tokenResults_eq : ∀ name ∈ ["Token", "Token [v2]", "[/v2]"],
    tokenResults name = [{ file := "/app.js", findings := [tokenFinding name] }] := by
  decide +kernel

/-- A name without brackets is shown as it is. -/
theorem results_shown_token : ∃ lines : List String,
    (Step.showAll (results (tokenResults "Token") "/")).run.run newSession =
      (.ok (), withShown newSession (.table "Findings" findingColumns
        [["error", "app.js", "1:5", "Token", "tok_1", Rule.defaultFix]] :: lines.map .text)) := by
  have hshown := (results_shown (tokenResults "Token") "/" newSession).2.2
  rw [tokenResults_eq _ (by decide)] at hshown ⊢
  exact hshown (List.forall_mem_singleton.2 ⟨by decide, by decide, by decide, by decide⟩) nofun

/-- A rule may have a name with brackets. These are taken for a tag: they are missing from the
table, or there is no table at all. -/
theorem results_take_name_for_tag :
    Rule.loadFrom "rules.yml" (tokenRules "Token [v2]") = .ok [tokenRule "Token [v2]"] ∧
    Rule.loadFrom "rules.yml" (tokenRules "[/v2]") = .ok [tokenRule "[/v2]"] ∧
    ∀ [Markup] [LawfulMarkup],
      (Step.showAll (results (tokenResults "Token [v2]") "/")).run.run newSession =
        (.ok (), withShown newSession
          [.table "Findings" findingColumns
            [["error", "app.js", "1:5", "Token ", "tok_1", Rule.defaultFix]],
           .text "\nSummary", .text "1 error(s) found"]) ∧
      ((Step.showAll (results (tokenResults "[/v2]") "/")).run.run newSession).1 =
        .error .badMarkup := by
  refine ⟨by decide +kernel, by decide +kernel, fun {_ _} => ⟨?_, ?_⟩⟩
  · have hrule : Markup.shown? "Token [v2]" = some "Token " :=
      @LawfulMarkup.opened _ _ "v2" "Token " "" (by decide) (by decide)
    have hpath : Markup.shown? (Markup.escape "app.js") = some "app.js" :=
      LawfulMarkup.escaped (by decide)
    have hmatched : Markup.shown? (Markup.escape "tok_1") = some "tok_1" :=
      LawfulMarkup.escaped (by decide)
    have hfix : Markup.shown? Rule.defaultFix = some Rule.defaultFix :=
      LawfulMarkup.ordinary (by decide)
    have hsummary : Markup.shown? "\n[bold]Summary[/bold]" = some "\nSummary" :=
      @LawfulMarkup.styled _ _ "bold" "\n" "Summary" (by decide) (by decide)
    have herrors : Markup.shown? "[red]1 error(s) found[/red]" = some "1 error(s) found" :=
      @shown?_styled _ _ "red" "1 error(s) found" (by decide) (by decide)
    have heq : results (tokenResults "Token [v2]") "/" =
        [findingsTable "/" [tokenFinding "Token [v2]"], .text "\n[bold]Summary[/bold]",
          .text "[red]1 error(s) found[/red]"] := by
      rw [tokenResults_eq _ (by decide)]
      rfl
    have hrow : (findingRow "/" (tokenFinding "Token [v2]")).mapM Markup.shown? =
        some ["error", "app.js", "1:5", "Token ", "tok_1", Rule.defaultFix] := by
      refine mapM_eq_some_iff.2 ?_
      change [Markup.shown? (styled (color .error) Severity.error.name),
        Markup.shown? (Markup.escape "app.js"),
        Markup.shown? (position (tokenFinding "Token [v2]")), Markup.shown? "Token [v2]",
        Markup.shown? (Markup.escape "tok_1"), Markup.shown? Rule.defaultFix] = _
      rw [shown?_severity, shown?_position, hrule, hpath, hmatched, hfix]
      rfl
    refine run_showAll.2 ⟨_, mapM_eq_some_iff.2 ?_, rfl⟩
    rw [heq]
    simp [findingsTable, Entry.shown?, hrow, hsummary, herrors]
  · refine @showAll_results_refused _ _ _ _ (tokenFinding "[/v2]") "v2" "" "" ?_ (by decide)
      (by decide) (by decide) newSession
    rw [tokenResults_eq _ (by decide)]
    exact List.mem_singleton_self _

end SecretScan.Console

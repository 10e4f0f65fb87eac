import Mathlib.Data.List.Perm.Basic
import Mathlib.Data.List.Sort
import SecretScan.Proofs.Scan.Secrets

/-!
# The order of a scan

A scan reports what its catalog has to say line by line: on each line the matches of the rules,
rule by rule and from left to right, and behind them the hits of the content checks, check by
check. The checks look at the text as a whole, so their hits have to be dealt out to the lines:
a hit is on at most one line (`hits_byLine_perm`), and what is on none comes last, by the numbers
of the lines it names. So every match and every hit is reported once (`content_perm`), and where it
is reported can be said without the walk over the lines (`content_ordered`).
-/

namespace SecretScan

/-- The part of a catalog that passes a filter. -/
def Catalog.passing (catalog : Catalog) (filter : SeverityFilter) : Catalog :=
  { catalog with
    rules := catalog.rules.filter fun r => filter.passes r.severity
    checks := catalog.checks.filter fun c => filter.passes c.severity }

namespace Scan

open Text

variable {catalog : Catalog} {filter : SeverityFilter} {file : String} {hits : List Finding}

/-! ## Findings by their lines -/

theorem sortByLine_eq (findings : List Finding) :
    sortByLine findings = findings.insertionSort fun f g => f.line ≤ g.line := by
  have hinsert : ∀ (f : Finding) (findings : List Finding), insertByLine f findings =
      findings.orderedInsert (fun f g => f.line ≤ g.line) f := by
    intro f findings
    induction findings with
    | nil => rfl
    | cons g findings ih => rw [insertByLine, List.orderedInsert_cons, ih]
  induction findings with
  | nil => rfl
  | cons f findings ih => rw [sortByLine, List.insertionSort_cons, ih, hinsert]

instance : Std.Total fun f g : Finding => f.line ≤ g.line := ⟨fun f g => Int.le_total f.line g.line⟩

instance : IsTrans Finding fun f g => f.line ≤ g.line := ⟨fun _ _ _ => Int.le_trans⟩

theorem sortByLine_perm (findings : List Finding) : (sortByLine findings).Perm findings := by
  rw [sortByLine_eq]
  exact List.perm_insertionSort _ _

theorem sortByLine_sorted (findings : List Finding) :
    (sortByLine findings).Pairwise fun f g => f.line ≤ g.line := by
  rw [sortByLine_eq]
  exact List.pairwise_insertionSort _ _

theorem insertByLine_first {f : Finding} {findings : List Finding}
    (h : ∀ g ∈ findings, f.line ≤ g.line) : insertByLine f findings = f :: findings := by
  cases findings with
  | nil => rfl
  | cons g rest => rw [insertByLine, if_pos (h g List.mem_cons_self)]

theorem insertByLine_filter (q : Finding → Bool) (f : Finding) {findings : List Finding}
    (hsorted : findings.Pairwise fun f g => f.line ≤ g.line) :
    (insertByLine f findings).filter q =
      if q f then insertByLine f (findings.filter q) else findings.filter q := by
  induction findings with
  | nil => cases hf : q f <;> simp [insertByLine, hf]
  | cons g rest ih =>
      rw [List.pairwise_cons] at hsorted
      rw [insertByLine]
      split
      · next hle =>
          have hfirst : ∀ h ∈ (g :: rest).filter q, f.line ≤ h.line := by
            intro h hh
            obtain rfl | hh := List.mem_cons.1 (List.mem_filter.1 hh).1
            · exact hle
            · exact Int.le_trans hle (hsorted.1 h hh)
          rw [insertByLine_first hfirst, List.filter_cons]
      · next hlt =>
          rw [List.filter_cons, ih hsorted.2, List.filter_cons]
          cases q g with
          | false => rfl
          | true =>
              rw [if_pos rfl, if_pos rfl, insertByLine, if_neg hlt]
              split <;> rfl

/-- Sorting keeps the order of what is on one line, so nothing depends on what else is sorted. -/
theorem sortByLine_filter (q : Finding → Bool) (findings : List Finding) :
    (sortByLine findings).filter q = sortByLine (findings.filter q) := by
  induction findings with
  | nil => rfl
  | cons f rest ih =>
      rw [sortByLine, insertByLine_filter q f (sortByLine_sorted rest), ih, List.filter_cons]
      split <;> rfl

theorem sortByLine_stable (findings : List Finding) (number : Int) :
    (sortByLine findings).filter (·.line = number) = findings.filter (·.line = number) := by
  rw [sortByLine_filter, sortByLine_eq, List.Pairwise.insertionSort_eq]
  refine List.pairwise_iff_forall_sublist.2 fun {f g} hsub => ?_
  have hline : ∀ h ∈ findings.filter (·.line = number), h.line = number := by simp
  rw [hline f (hsub.subset (by simp)), hline g (hsub.subset (by simp))]

/-! ## Hits on lines -/

/-- What is on one of the lines is on exactly one of them. -/
theorem hits_byLine_perm (hits : List Finding) (ls : List (List Char)) (number : Nat) :
    ((ls.zipIdx number).flatMap fun line => hits.filter (·.line = (line.2 : Int))).Perm
      (hits.filter fun f => (number : Int) ≤ f.line ∧ f.line < number + ls.length) := by
  induction ls generalizing number with
  | nil =>
      rw [List.filter_eq_nil_iff.2 fun f _ => by simp]
      exact List.Perm.refl _
  | cons line rest ih =>
      have hfirst := List.filter_append_perm (fun f : Finding => f.line = number)
        (hits.filter fun f => (number : Int) ≤ f.line ∧ f.line < number + (line :: rest).length)
      rw [List.filter_filter, List.filter_filter] at hfirst
      rw [List.zipIdx_cons, List.flatMap_cons]
      refine ((ih (number + 1)).append_left _).trans (List.Perm.trans (List.Perm.of_eq ?_) hfirst)
      rw [List.length_cons]
      congr 1 <;> refine List.filter_congr fun f _ => ?_ <;> rw [Bool.eq_iff_iff] <;> simp <;> omega

/-- The findings of the rules of a catalog in a text, line by line. -/
def ofRules (catalog : Catalog) (file : String) (s : List Char) : List Finding :=
  ((lines s).zipIdx 1).flatMap fun (line, number) =>
    catalog.rules.flatMap (ruleFindings catalog.suppress file number line)

/-- The hits of the checks of a catalog on lines with some numbers, check by check. -/
def ofChecks (catalog : Catalog) (file : String) (s : List Char) (numbers : Int → Bool) :
    List Finding :=
  catalog.checks.flatMap fun check =>
    ((check.locate s).filter fun hit => numbers hit.line).map (checkFinding file check)

theorem ofChecks_eq (catalog : Catalog) (file : String) (s : List Char) (numbers : Int → Bool) :
    ofChecks catalog file s numbers =
      (checkFindings file s catalog.checks).filter fun f => numbers f.line := by
  rw [ofChecks, checkFindings, List.filter_flatMap]
  refine List.flatMap_congr fun check _ => ?_
  rw [List.filter_map]
  rfl

theorem linesFindings_eq (rules : List Rule) (ls : List (List Char)) (number : Nat) :
    linesFindings catalog rules hits file number ls = (ls.zipIdx number).flatMap fun line =>
      lineFindings catalog rules hits file line.2 line.1 := by
  induction ls generalizing number with
  | nil => rfl
  | cons line rest ih => rw [linesFindings, ih, List.zipIdx_cons, List.flatMap_cons]

/-- Only what is suppressed comes from the catalog itself. -/
theorem linesFindings_congr (c c' : Catalog) (h : c.suppress = c'.suppress) (rules : List Rule)
    (hits : List Finding) (ls : List (List Char)) (number : Nat) :
    linesFindings c rules hits file number ls = linesFindings c' rules hits file number ls := by
  rw [linesFindings_eq, linesFindings_eq]
  simp only [lineFindings, h]

theorem ofRules_eq (catalog : Catalog) (file : String) (s : List Char) :
    ofRules catalog file s = linesFindings catalog catalog.rules [] file 1 (lines s) := by
  rw [linesFindings_eq]
  refine List.flatMap_congr fun line _ => ?_
  rw [lineFindings, List.filter_nil, List.append_nil]

theorem mem_ofRules {s : List Char} {g : Finding} : g ∈ ofRules catalog file s ↔
    ∃ (k : Nat) (line : List Char), (lines s)[k]? = some line ∧ ∃ rule ∈ catalog.rules,
      ∃ m ∈ rule.pattern.allIn line, isReported catalog.suppress m = true ∧
        g = ruleFinding file (1 + k) rule m := by
  rw [ofRules_eq]
  exact mem_linesFindings

/-- Every match and every hit on a line is found once. -/
theorem linesFindings_perm (rules : List Rule) (ls : List (List Char)) (number : Nat) :
    (linesFindings catalog rules hits file number ls).Perm
      (linesFindings catalog rules [] file number ls ++ hits.filter fun f : Finding =>
        (number : Int) ≤ f.line ∧ f.line < (number : Int) + ls.length) := by
  rw [linesFindings_eq, linesFindings_eq]
  simp only [lineFindings, List.filter_nil, List.append_nil]
  have hhits := hits_byLine_perm hits ls number
  exact (List.flatMap_append_perm _ _ _).symm.trans (hhits.append_left _)

/-- Of a catalog a scan looks at what passes, and no further. -/
theorem content_eq (catalog : Catalog) (filter : SeverityFilter) (file text : String) :
    content catalog filter file text =
      linesFindings (catalog.passing filter) (catalog.passing filter).rules
        (checkFindings file text.toList (catalog.passing filter).checks) file 1
        (lines text.toList) ++
      sortByLine ((checkFindings file text.toList (catalog.passing filter).checks).filter fun f =>
        f.line < 1 || (lines text.toList).length < f.line) := by
  rw [content, linesFindings_congr catalog (catalog.passing filter) rfl]
  rfl

theorem content_perm (catalog : Catalog) (filter : SeverityFilter) (file text : String) :
    (content catalog filter file text).Perm
      (ofRules (catalog.passing filter) file text.toList ++
        checkFindings file text.toList (catalog.passing filter).checks) := by
  have houtside : ∀ f : Finding,
      (decide (f.line < 1) || decide ((lines text.toList).length < f.line)) =
        !decide (((1 : Nat) : Int) ≤ f.line ∧ f.line < (1 : Nat) + (lines text.toList).length) := by
    intro f
    rw [Bool.eq_iff_iff]
    simp
    omega
  rw [content_eq, ofRules_eq]
  refine ((linesFindings_perm _ _ _).append (sortByLine_perm _)).trans ?_
  simp only [houtside]
  rw [List.append_assoc]
  exact (List.filter_append_perm _ _).append_left _

theorem ruleFindings_column (suppress : Bool) (file : String) (number : Nat) (line : List Char)
    (rule : Rule) :
    (ruleFindings suppress file number line rule).Pairwise fun f g => f.column < g.column := by
  rw [ruleFindings, List.pairwise_map]
  refine ((Pattern.allIn_gathered rule.pattern line).ordered.filter _).imp_of_mem ?_
  intro m n hm _ hmn
  have hsome : m.text ≠ [] := by
    rintro hnone
    simp [isReported, hnone] at hm
  have hlength := List.length_pos_iff.2 hsome
  rw [Match.stop] at hmn
  show (m.start : Int) + 1 < n.start + 1
  omega

/-! ## The order of a scan -/

/-- Findings are in the order of a scan, and `late` are those of them that are on no line. -/
structure Ordered (catalog : Catalog) (file : String) (s : List Char) (found late : List Finding) :
    Prop where
  /-- The matches on a line come rule by rule, and then the hits on it check by check. -/
  byLine : found = (((lines s).zipIdx 1).flatMap fun (line, number) =>
      (catalog.rules.flatMap fun rule =>
        ((rule.pattern.allIn line).filter (isReported catalog.suppress)).map
          (ruleFinding file number rule)) ++
      ofChecks catalog file s fun n => n = number) ++ late
  leftToRight : ∀ line number, ∀ rule ∈ catalog.rules,
    (((rule.pattern.allIn line).filter (isReported catalog.suppress)).map
      (ruleFinding file number rule)).Pairwise fun f g => f.column < g.column
  /-- Hits on lines that the text does not have come by their lines, and otherwise in the order in
  which they were reported. -/
  lateHits : late.Perm (ofChecks catalog file s fun n => n < 1 || (lines s).length < n)
  lateSorted : late.Pairwise fun f g => f.line ≤ g.line
  lateStable : ∀ number : Int, late.filter (·.line = number) =
    (ofChecks catalog file s fun n => n < 1 || (lines s).length < n).filter (·.line = number)
  /-- Every match of a rule and every hit of a check is there once. -/
  once : found.Perm (ofRules catalog file s ++ checkFindings file s catalog.checks)

theorem content_ordered (catalog : Catalog) (filter : SeverityFilter) (file text : String) :
    ∃ late, Ordered (catalog.passing filter) file text.toList (content catalog filter file text)
      late := by
  let hits := checkFindings file text.toList (catalog.passing filter).checks
  refine ⟨sortByLine (hits.filter fun f => f.line < 1 || (lines text.toList).length < f.line),
    ?_, fun line number rule _ => ruleFindings_column _ file number line rule, ?_,
    sortByLine_sorted _, ?_, content_perm catalog filter file text⟩
  · rw [content_eq, linesFindings_eq]
    refine congrArg (· ++ _) (List.flatMap_congr fun line _ => congrArg (_ ++ ·) ?_)
    exact (ofChecks_eq (catalog.passing filter) file text.toList fun n => n = line.2).symm
  · rw [ofChecks_eq]
    exact sortByLine_perm _
  · intro number
    rw [ofChecks_eq]
    exact sortByLine_stable _ number

end Scan

end SecretScan

import SecretScan.Proofs.Rewrite.Pass
import SecretScan.Proofs.Scan.Spots

/-!
# The findings of a scan

The rules for secrets have no checks beside them, so a scan for secrets finds what some
rule matches on some line, and nothing else. Which secret is found in a line depends on
the line alone; only its number is taken from elsewhere.
-/

namespace SecretScan

namespace Scan

open Text

theorem mem_linesFindings {catalog : Catalog} {rules : List Rule} {file : String} {g : Finding} :
    ∀ {ls : List (List Char)} {number : Nat}, g ∈ linesFindings catalog rules [] file number ls ↔
      ∃ (k : Nat) (line : List Char), ls[k]? = some line ∧ ∃ rule ∈ rules,
        ∃ m ∈ rule.pattern.allIn line, isReported catalog.suppress m = true ∧
          g = ruleFinding file (number + k) rule m := by
  intro ls
  induction ls with
  | nil => simp [linesFindings]
  | cons line rest ih =>
      intro number
      rw [linesFindings, List.mem_append, ih, lineFindings, List.filter_nil, List.append_nil]
      simp only [List.mem_flatMap, ruleFindings, List.mem_map, List.mem_filter]
      constructor
      · rintro (⟨rule, hrule, m, ⟨hm, hreported⟩, rfl⟩ | ⟨k, line', hline, rule, hrule, m, hm, hg⟩)
        · exact ⟨0, line, rfl, rule, hrule, m, hm, hreported, rfl⟩
        · refine ⟨k + 1, line', hline, rule, hrule, m, hm, hg.1, ?_⟩
          rw [hg.2, show number + 1 + k = number + (k + 1) by omega]
      · rintro ⟨k, line', hline, rule, hrule, m, hm, hreported, rfl⟩
        cases k with
        | zero =>
            obtain rfl : line = line' := by simpa using hline
            exact Or.inl ⟨rule, hrule, m, ⟨hm, hreported⟩, rfl⟩
        | succ k =>
            refine Or.inr ⟨k, line', hline, rule, hrule, m, hm, hreported, ?_⟩
            rw [show number + (k + 1) = number + 1 + k by omega]

/-- Where a catalog has no checks, a scan goes over the lines and that is all. -/
theorem content_of_rules {catalog : Catalog} (hchecks : catalog.checks = [])
    (filter : SeverityFilter) (file text : String) :
    content catalog filter file text = linesFindings catalog
      (catalog.rules.filter fun r => filter.passes r.severity) [] file 1 (lines text.toList) := by
  rw [content, hchecks, List.filter_nil]
  simp only [checkFindings, List.flatMap_nil, List.filter_nil, sortByLine, List.append_nil]

/-- Where a catalog has no checks, what is found is what the rules that pass match. -/
theorem mem_content {catalog : Catalog} (hchecks : catalog.checks = []) {filter : SeverityFilter}
    {file text : String} {g : Finding} :
    g ∈ content catalog filter file text ↔
      ∃ (k : Nat) (line : List Char), (lines text.toList)[k]? = some line ∧
        ∃ rule ∈ catalog.rules.filter (fun r => filter.passes r.severity),
          ∃ m ∈ rule.pattern.allIn line, isReported catalog.suppress m = true ∧
            g = ruleFinding file (1 + k) rule m := by
  rw [content_of_rules hchecks]
  exact mem_linesFindings

/-- What identifies a finding is the text that was matched. -/
theorem key_ruleFinding {suppress : Bool} {m : Match} (h : isReported suppress m = true)
    (file : String) (number : Nat) (rule : Rule) :
    (ruleFinding file number rule m).key = String.ofList m.text := by
  have hne : String.ofList m.text ≠ "" := by
    intro heq
    have := congrArg String.toList heq
    simp only [String.toList_ofList] at this
    simp [isReported, this] at h
  rw [Finding.key]
  exact if_neg hne

end Scan

namespace Rewrite

open Text

theorem mem_secretsIn {path : String} {s : List Char} {g : Finding} :
    g ∈ secretsIn path s ↔ ∃ (k : Nat) (line : List Char), (lines s)[k]? = some line ∧
      ∃ rule ∈ Secrets.rules, ∃ m ∈ rule.pattern.allIn line, Scan.isReported true m = true ∧
        g = Scan.ruleFinding path (1 + k) rule m := by
  rw [secretsIn, Scan.mem_content rfl, String.toList_ofList]
  have hrules : Secrets.catalog.rules.filter (fun r => SeverityFilter.all.passes r.severity) =
      Secrets.rules := List.filter_true _
  rw [hrules]
  rfl

end Rewrite

end SecretScan

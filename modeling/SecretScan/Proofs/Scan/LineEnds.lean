import SecretScan.Proofs.Catalog.Secret
import SecretScan.Proofs.Pattern.Trailing
import SecretScan.Proofs.Scan.Lines

/-!
# Line ends

Lines end at line feeds, so where a carriage return stands in front of every line feed all lines
but the last one have it at their end, and every rule sees it there. Some rules go over it, since
it is a blank, and others stop at it, but none ends a match with it. So the same is matched with
and without the carriage returns (`spots_return`), and the findings are the same
(`content_returns`).
-/

namespace SecretScan

namespace Text

/-- A text with a carriage return in front of every line feed. -/
def withReturns : List Char → List Char
  | [] => []
  | c :: rest => if c = '\n' then '\r' :: '\n' :: withReturns rest else c :: withReturns rest

/-- The lines are the same, but for a carriage return at the end. -/
theorem lines_withReturns (s : List Char) :
    List.Forall₂ (fun line line' => line' = line ∨ line' = line ++ ['\r'])
      (lines s) (lines (withReturns s)) := by
  induction s with
  | nil => exact .cons (Or.inl rfl) .nil
  | cons c s ih =>
      rw [withReturns]
      by_cases hc : c = '\n'
      · subst hc
        rw [if_pos rfl, lines, splitAt_sep]
        exact .cons (Or.inr rfl) ih
      · rw [if_neg hc]
        obtain ⟨line, rest, hs, hcs⟩ := splitAt_cons_ne hc s
        obtain ⟨line', rest', hs', hcs'⟩ := splitAt_cons_ne hc (withReturns s)
        rw [lines, lines, hs, hs'] at ih
        rw [lines, lines, hcs, hcs']
        obtain ⟨hline, hrest⟩ := List.forall₂_cons.1 ih
        refine .cons (hline.imp (fun h => ?_) fun h => ?_) hrest
        · rw [h]
        · rw [h, List.cons_append]

end Text

namespace Scan

open Pattern Secrets Text

/-- What is found on a line is told by where the rule matches and what it matches there. -/
theorem ruleFindings_congr {rule : Rule} (hrule : rule ∈ rules) {line line' : List Char}
    (h : spots (rule.pattern.allIn line) = spots (rule.pattern.allIn line')) (suppress : Bool)
    (file : String) (number : Nat) :
    ruleFindings suppress file number line rule = ruleFindings suppress file number line' rule := by
  let isKept := fun spot : Nat × List Char =>
    !spot.2.isEmpty && !(suppress && Suppression.isSuppressed spot.2)
  have hspots : ∀ line, ruleFindings suppress file number line rule =
      ((spots (rule.pattern.allIn line)).filter isKept).map (findingAt file number rule) := by
    intro line
    rw [ruleFindings, spots, List.filter_map, List.map_map]
    exact List.map_congr_left fun m hm =>
      ruleFinding_eq hrule (List.mem_of_mem_filter hm) file number
  rw [hspots, hspots, h]

/-- No rule for secrets sees the carriage return at the end of a line. -/
theorem spots_return {rule : Rule} (hrule : rule ∈ rules) (line : List Char) :
    spots (rule.pattern.allIn (line ++ ['\r'])) = spots (rule.pattern.allIn line) := by
  have hrules : ∀ rule ∈ rules, rule.pattern.shuns true [] = true ∧
      rule.pattern.sheds '\r' = true ∧ rule.pattern.eats = true := by
    decide +kernel
  obtain ⟨hshuns, hsheds, heats⟩ := hrules rule hrule
  exact spots_trailing (by decide) hshuns hsheds heats line

/-- Lines with and without carriage returns at their ends. -/
theorem linesFindings_returns {rules : List Rule} (hrules : ∀ rule ∈ rules, rule ∈ Secrets.rules)
    (file : String) {ls ls' : List (List Char)}
    (h : List.Forall₂ (fun line line' => line' = line ∨ line' = line ++ ['\r']) ls ls')
    (number : Nat) : linesFindings Secrets.catalog rules [] file number ls' =
      linesFindings Secrets.catalog rules [] file number ls := by
  induction h generalizing number with
  | nil => rfl
  | @cons line line' _ _ hline _ ih =>
      have hspots : ∀ rule ∈ rules,
          spots (rule.pattern.allIn line') = spots (rule.pattern.allIn line) := by
        intro rule hrule
        rcases hline with rfl | rfl
        · rfl
        · exact spots_return (hrules rule hrule) line
      rw [linesFindings, linesFindings, lineFindings, lineFindings, ih]
      refine congrArg (· ++ _ ++ _) (List.flatMap_congr fun rule hrule => ?_)
      exact ruleFindings_congr (hrules rule hrule) (hspots rule hrule) _ file number

/-- A carriage return in front of every line feed changes nothing in what is found: neither the
lines and the columns nor the keys and the values. -/
theorem content_returns (filter : SeverityFilter) (file text : String) :
    content Secrets.catalog filter file (String.ofList (withReturns text.toList)) =
      content Secrets.catalog filter file text := by
  rw [content_of_rules rfl, content_of_rules rfl, String.toList_ofList]
  exact linesFindings_returns (fun _ => List.mem_of_mem_filter) file
    (lines_withReturns text.toList) 1

end Scan

end SecretScan

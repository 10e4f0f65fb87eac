import SecretScan.Proofs.Scan.Parts

/-!
# Scanning is local to lines

A rule looks at one line and at nothing around it, not even at the number of the line: that number
only goes into what is reported (`ruleFindings_down`). So a catalog without content checks finds in
a line what it would find there if the line were the whole text, and a line feed may be taken for
the end of one text and the beginning of another (`content_local`).
-/

namespace SecretScan

/-- A finding some lines further down. -/
def Finding.down (n : Nat) (f : Finding) : Finding := { f with line := f.line + n }

@[simp] theorem Finding.key_down (n : Nat) (f : Finding) : (f.down n).key = f.key := rfl

@[simp] theorem Finding.value_down (n : Nat) (f : Finding) : (f.down n).value = f.value := rfl

theorem Text.length_splitAt (sep : Char) (s : List Char) :
    (splitAt sep s).length = s.count sep + 1 := by
  induction s with
  | nil => rfl
  | cons c s ih =>
      by_cases hc : c = sep
      · rw [hc, splitAt_sep, List.length_cons, ih, List.count_cons_self]
      · obtain ⟨part, parts, hs, hcs⟩ := splitAt_cons_ne hc s
        rw [List.count_cons_of_ne hc, ← ih, hcs, hs, List.length_cons, List.length_cons]

namespace Scan

open Text

variable {catalog : Catalog} {rules : List Rule} {file : String}

theorem ruleFinding_down (file : String) (number n : Nat) (rule : Rule) (m : Match) :
    ruleFinding file (number + n) rule m = (ruleFinding file number rule m).down n := rfl

theorem ruleFindings_down (suppress : Bool) (file : String) (number n : Nat) (line : List Char)
    (rule : Rule) : ruleFindings suppress file (number + n) line rule =
      (ruleFindings suppress file number line rule).map (Finding.down n) := by
  rw [ruleFindings, ruleFindings, List.map_map]
  exact List.map_congr_left fun m _ => ruleFinding_down file number n rule m

theorem linesFindings_down (number n : Nat) (ls : List (List Char)) :
    linesFindings catalog rules [] file (number + n) ls =
      (linesFindings catalog rules [] file number ls).map (Finding.down n) := by
  induction ls generalizing number with
  | nil => rfl
  | cons line rest ih =>
      have hline : lineFindings catalog rules [] file (number + n) line =
          (lineFindings catalog rules [] file number line).map (Finding.down n) := by
        simp only [lineFindings, List.filter_nil, List.append_nil, List.map_flatMap]
        exact List.flatMap_congr fun rule _ => ruleFindings_down _ file number n line rule
      rw [linesFindings, linesFindings, hline, Nat.add_right_comm, ih, List.map_append]

theorem linesFindings_append (hits : List Finding) (number : Nat) (ls ls' : List (List Char)) :
    linesFindings catalog rules hits file number (ls ++ ls') =
      linesFindings catalog rules hits file number ls ++
        linesFindings catalog rules hits file (number + ls.length) ls' := by
  rw [linesFindings_eq, linesFindings_eq, linesFindings_eq, List.zipIdx_append,
    List.flatMap_append]

/-- A line feed cuts a scan in two: what is found in front of it, and then what is found behind it,
further down by the lines in front. Apart from the numbers of the lines nothing changes. -/
theorem content_local {catalog : Catalog} (hchecks : catalog.checks = [])
    (filter : SeverityFilter) (file a b : String) :
    content catalog filter file (a ++ "\n" ++ b) = content catalog filter file a ++
      (content catalog filter file b).map (Finding.down (a.toList.count '\n' + 1)) := by
  have hlines : lines (a ++ "\n" ++ b).toList = lines a.toList ++ lines b.toList := by
    rw [String.append_assoc, String.toList_append, String.toList_append]
    exact splitAt_append_sep a.toList b.toList
  have hcount : (lines a.toList).length = a.toList.count '\n' + 1 := length_splitAt '\n' a.toList
  rw [content_of_rules hchecks, content_of_rules hchecks, content_of_rules hchecks, hlines,
    linesFindings_append, hcount, linesFindings_down]

/-- A rule that takes a line as a whole, and a password that is cut in two. -/
theorem content_local_anchored :
    let whole : Rule :=
      { name := "Whole Line"
        pattern := .ofList [.anchor .textStart, .text "x", .anchor .textEnd]
        severity := .warning, message := "", fix := "" }
    let catalog := { Secrets.catalog with rules := Secrets.rules ++ [whole] }
    let a := "x\npassword ="
    let b := "'redis://h'\nx"
    let text := a ++ "\n" ++ b
    Secrets.catalog.extend [whole] = .ok catalog ∧ catalog.checks = [] ∧
      content catalog .all "a.js" text = content catalog .all "a.js" a ++
        (content catalog .all "a.js" b).map (Finding.down (a.toList.count '\n' + 1)) ∧
      (content catalog .all "a.js" text).map (fun f => (f.rule, f.line)) =
        [("Whole Line", 1), ("Database URL", 3), ("Whole Line", 4)] := by
  intro whole catalog a b text
  have hextend : Secrets.catalog.extend [whole] = .ok catalog :=
    Catalog.extend_eq_ok.2 ⟨rfl, by decide +kernel, by decide +kernel⟩
  exact ⟨hextend, rfl, content_local rfl .all "a.js" a b, by decide +kernel⟩

end Scan

end SecretScan

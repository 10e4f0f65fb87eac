import SecretScan.Catalog.Secrets
import SecretScan.Proofs.Env.File
import SecretScan.Proofs.Remediation.Turns
import SecretScan.Scan.Content

/-!
# What a preview promises

A preview is made without a disk, so it can only tell what a run may do. It names the variables
that every run gives, and the files of which some finding could be rewritten. The run passes over
all other files without reading them (`fixFiles_passes`), so it modifies no file that was not
announced, wherever it stops (`preview_agrees`).
-/

namespace SecretScan.Remediation

open Files (Disk FileSystem)

/-- The names in a preview: what stands in front of the first equals sign of an assignment. -/
def Preview.names (p : Preview) : List String :=
  p.assignments.map fun assignment => String.ofList (assignment.toList.takeWhile (· ≠ '='))

theorem names_preview (findings : List Finding) :
    (preview findings).names = (Env.Mapping.ofFindings findings).names := by
  rw [Preview.names, preview, List.map_map, Env.Mapping.names]
  refine List.map_congr_left fun e he => ?_
  obtain ⟨x, hx, rfl⟩ := List.mem_map.1 he
  have hname := (Env.Mapping.ofFindings_named findings x hx).unbroken.2
  have hfree : ∀ c ∈ x.2.name.toList, decide (c ≠ '=') = true := by
    intro c hc
    exact decide_eq_true (ne_of_mem_of_not_mem hc hname)
  show String.ofList _ = _
  rw [String.toList_append, String.toList_append, String.toList_append, List.append_assoc,
    List.append_assoc, List.takeWhile_append_of_pos hfree]
  simp

/-! ## Files that are passed over -/

section Turns

variable {σ : Type} [FileSystem σ] {mapping : Env.Mapping}

theorem fixFile_passes {p : Progress σ} {file : String} {findings : List (Nat × Finding)}
    (h : hasRewritable findings = false) : fixFile mapping p file findings = (p, none) := by
  rw [fixFile, h]
  rfl

theorem fixFiles_passes (groups : List (String × List (Nat × Finding))) (p : Progress σ) :
    fixFiles mapping (groups.filter fun (_, g) => hasRewritable g) p =
      fixFiles mapping groups p := by
  induction groups generalizing p with
  | nil => rfl
  | cons group groups ih =>
      cases h : hasRewritable group.2 with
      | true =>
          simp only [List.filter_cons, h, if_true, fixFiles, ih]
      | false =>
          simp only [List.filter_cons, h, if_neg Bool.false_ne_true, fixFiles, fixFile_passes h, ih]

end Turns

theorem ended_announced {σ : Type} [FileSystem σ] (mapping : Env.Mapping) (d : σ)
    (directory : FilePath) (findings : List Finding) :
    (ended mapping d directory (numbered findings)).1.modified.Sublist
      (preview findings).files := by
  rw [ended_turns, ← fixFiles_passes]
  obtain ⟨done, hdone, heq⟩ := @fixFiles_modified _ _ mapping
    ((groupByFile (numbered findings)).filter fun (_, g) => hasRewritable g) { disk := d }
  rw [heq, List.nil_append]
  exact hdone

variable {d : Disk} {directory : FilePath} {findings : List Finding} {outcome : Outcome}

/-- A run that goes well gives the names of the preview, in this order, and whatever becomes of a
run, the files that it modified were announced, in this order. -/
theorem preview_agrees (hrun : (run d directory findings).2.2 = .ok outcome) :
    (outcome.success = true → (preview findings).names = outcome.names) ∧
      outcome.modified.Sublist (preview findings).files := by
  by_cases hempty : findings = []
  · subst hempty
    rw [← Except.ok.inj hrun]
    exact ⟨fun _ => rfl, List.Sublist.refl _⟩
  rw [run_eq hempty] at hrun
  obtain ⟨-, hmodified, -, hnone, hsucceeded⟩ := answer_ok hrun
  constructor
  · intro hsuccess
    rw [hsucceeded (hnone.1 hsuccess), names_preview]
    rfl
  · rw [hmodified]
    exact ended_announced _ d directory findings

/-- Two files are announced, one of which turns out to hold no literal that can be rewritten. -/
theorem preview_agrees_partly :
    let source := "x = \"redis://h\"\n".toList
    let other := "// a@b.co\n".toList
    let d : Disk := { tree := .directory [("a.js", .file (Text.encodeUtf8 source)),
      ("b.js", .file (Text.encodeUtf8 other))] }
    let findings := Scan.content Secrets.catalog .all "a.js" (String.ofList source) ++
      Scan.content Secrets.catalog .all "b.js" (String.ofList other)
    ∃ outcome, (run d (FilePath.ofString ".") findings).2.2 = .ok outcome ∧
      outcome.success = true ∧ (preview findings).names = outcome.names ∧
      outcome.names = ["DATABASE_URL", "CONTACT_EMAIL"] ∧
      outcome.modified.Sublist (preview findings).files ∧
      outcome.modified = ["a.js"] ∧ (preview findings).files = ["a.js", "b.js"] := by
  intro source other d findings
  obtain ⟨outcome, houtcome, hsuccess, hnames, hfiles⟩ :
      ∃ outcome, (run d (FilePath.ofString ".") findings).2.2 = .ok outcome ∧
        outcome.success = true ∧ outcome.names = ["DATABASE_URL", "CONTACT_EMAIL"] ∧
        outcome.modified = ["a.js"] ∧ (preview findings).files = ["a.js", "b.js"] := by
    decide +kernel
  obtain ⟨hnamed, hannounced⟩ := preview_agrees houtcome
  exact ⟨outcome, houtcome, hsuccess, hnamed hsuccess, hnames, hannounced, hfiles⟩

end SecretScan.Remediation

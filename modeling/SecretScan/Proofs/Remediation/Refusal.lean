import SecretScan.Proofs.Remediation.Backups
import SecretScan.Proofs.Remediation.Journal

/-!
# Runs without an outcome

What the system refuses is reported, and so is a file that is no text: the run is over, and its
outcome tells what was done up to then. One failure is not reported. A script with a null
character is refused once its literals are replaced (`stopped_refused`), and then nothing is
said about the files that were rewritten before (`run_may_stop_unreported`). Nothing else keeps a
run over the findings of a scan from its outcome, and what the outcome does not name is as it was
(`run_reports`).
-/

namespace SecretScan.Remediation

open Files (Disk)

variable {mapping : Env.Mapping}

theorem fixFile_refused {p p' : Progress Disk} {file : String} {findings : List (Nat × Finding)}
    {f : Failure} (h : fixFile mapping p file findings = (p', some f)) (hf : isReported f = false) :
    p' = p ∧ ∃ s, p.disk.readText file = .ok s ∧
      Rewrite.Refused mapping (FilePath.ofString file) s findings := by
  have hcases := @fixFile_cases mapping p file findings
  obtain ⟨failure, heq, hwhy⟩ | ⟨s, new, disk, -, -, -, -, ⟨e, -, heq⟩ | ⟨disk', -, heq⟩⟩ := hcases
  · obtain ⟨rfl, hfailure⟩ := Prod.mk.inj (heq.symm.trans h)
    obtain hreported | ⟨s, hread, hrefused, -⟩ := hwhy f hfailure
    · exact absurd (hreported.symm.trans hf) nofun
    · exact ⟨rfl, s, hread, hrefused⟩
  · obtain ⟨-, hfailure⟩ := Prod.mk.inj (heq.symm.trans h)
    rw [← Option.some.inj hfailure] at hf
    cases hf
  · obtain ⟨-, hfailure⟩ := Prod.mk.inj (heq.symm.trans h)
    cases hfailure

/-- Turns end with a failure that is not reported only where a script is refused. -/
theorem fixFiles_refused {groups : List (String × List (Nat × Finding))} {f : Failure}
    (hf : isReported f = false) : ∀ {p p' : Progress Disk},
      fixFiles mapping groups p = (p', some f) →
      ∃ before group after s, groups = before ++ group :: after ∧
        fixFiles mapping before p = (p', none) ∧ p'.disk.readText group.1 = .ok s ∧
        Rewrite.Refused mapping (FilePath.ofString group.1) s group.2 := by
  induction groups with
  | nil => intro p p' h; cases h
  | cons group groups ih =>
      intro p p' h
      obtain ⟨f', hfix, hf'⟩ | ⟨p₁, hfix, h⟩ := fixFiles_cons h
      · obtain rfl := Option.some.inj hf'
        obtain ⟨rfl, s, hread, hrefused⟩ := fixFile_refused hfix hf
        exact ⟨[], group, groups, s, rfl, rfl, hread, hrefused⟩
      · obtain ⟨before, last, after, s, rfl, hbefore, hread, hrefused⟩ := ih h
        refine ⟨group :: before, last, after, s, rfl, ?_, hread, hrefused⟩
        rw [fixFiles, hfix]
        exact hbefore

/-- A run without an outcome was stopped by a script that is refused. -/
theorem stopped_refused {d : Disk} {directory : FilePath} {findings : List Finding} {f : Failure}
    (h : (run d directory findings).2.2 = .error f) :
    ∃ before group after p s, groupByFile (numbered findings) = before ++ group :: after ∧
      fixFiles (Env.Mapping.ofFindings findings) before { disk := d } = (p, none) ∧
      p.disk.readText group.1 = .ok s ∧
      Rewrite.Refused (Env.Mapping.ofFindings findings) (FilePath.ofString group.1) s group.2 := by
  have hne : findings ≠ [] := by
    rintro rfl
    cases h
  rw [run_eq hne, ended] at h
  split at h
  · next p f' hfix =>
      rw [answer] at h
      split at h
      · cases h
      · next hf =>
          obtain rfl := Except.error.inj h
          obtain ⟨before, group, after, s, h⟩ := fixFiles_refused (by simpa using hf) hfix
          exact ⟨before, group, after, p, s, h⟩
  · next p hfix =>
      -- what is written beside the sources fails only with a report
      cases hwrite : writeArtifacts (Env.Mapping.ofFindings findings) directory p with
      | mk p' failure =>
          obtain ⟨hreported, -⟩ := writeArtifacts_cases hwrite
          rw [hwrite] at h
          cases failure with
          | none => cases h
          | some f' =>
              rw [answer, if_pos (hreported f' rfl)] at h
              cases h

section Scanned

variable {d : Disk} {catalog : Catalog} {request : ScanRequest} {scan : Scan.Outcome}

theorem readText_at_turn (hnamed : d.WellNamed) (hscan : Scan.project d catalog request = .ok scan)
    {before after : List (String × List (Nat × Finding))} {group : String × List (Nat × Finding)}
    (hgroups : groupByFile (numbered (FileResult.flatten scan.results)) = before ++ group :: after)
    {p : Progress Disk} {failure : Option Failure}
    (hfix : fixFiles mapping before { disk := d } = (p, failure))
    (hscript : (FilePath.ofString group.1).kind = Rewrite.lookupSuffix) {s : List Char} :
    p.disk.readText group.1 = .ok s ↔ d.readText group.1 = .ok s := by
  obtain ⟨done, made, hran, hdone, hmade⟩ := fixFiles_ran hfix
  have hplaces := groups_apart hnamed hscan
  have hfound : ∀ file ∈ group.1 :: before.map (·.1),
      ∃ f ∈ FileResult.flatten scan.results, f.file = file := by
    intro file hfile
    refine file_of_group ?_
    rw [hgroups, List.map_append, List.map_cons]
    grind
  rw [hgroups, List.map_append, List.map_cons, List.pairwise_append] at hplaces
  rw [Disk.readText_eq_ok, Disk.readText_eq_ok]
  refine exists_congr fun bytes => and_congr_left fun _ => hran.read_other ?_ ?_
  · intro other hother
    exact (hplaces.2.2 other (hdone.subset hother) _ List.mem_cons_self).symm
  · intro path hpath heq
    obtain ⟨other, hother, rfl⟩ := List.mem_map.1 (hmade.subset hpath)
    obtain ⟨f, hf, hfile⟩ := hfound group.1 List.mem_cons_self
    obtain ⟨g, hg, rfl⟩ := hfound other (List.mem_cons_of_mem _ hother)
    rw [← hfile] at heq hscript
    have hbackup : f.file = backupPath g.file :=
      (Scan.project_apart hnamed hscan hf hg).2 _ isEnding_backupSuffix heq
    exact kind_backupPath g.file (by rw [← hbackup, hscript])

end Scanned

/-- A run over the findings of a scan has an outcome, unless one of their
files is refused. The outcome names every file that was rewritten, and its backup: where no path
leads that it names, nor one of a file beside the sources, the same is read as before. -/
theorem run_reports {d : Disk} (hnamed : d.WellNamed) {catalog : Catalog} {request : ScanRequest}
    {scan : Scan.Outcome} (hscan : Scan.project d catalog request = .ok scan)
    (directory : FilePath)
    (haccepted : ∀ f ∈ FileResult.flatten scan.results, ∀ s, d.readText f.file = .ok s →
      ¬ Rewrite.Refused (Env.Mapping.ofFindings (FileResult.flatten scan.results))
        (FilePath.ofString f.file) s
        ((numbered (FileResult.flatten scan.results)).filter (·.2.file = f.file))) :
    ∃ outcome, (run d directory (FileResult.flatten scan.results)).2.2 = .ok outcome ∧
      (∀ file ∈ outcome.modified, backupPath file ∈ outcome.backups) ∧
      ∀ path, (∀ named ∈ outcome.modified ++ outcome.backups ++
          artifactNames.map (artifact directory), d.place path ≠ d.place named) → ∀ bytes,
        (run d directory (FileResult.flatten scan.results)).1.read path = .ok bytes ↔
          d.read path = .ok bytes := by
  cases hrun : (run d directory (FileResult.flatten scan.results)).2.2 with
  | error f =>
      obtain ⟨before, group, after, p, s, hgroups, hfix, hread, hrefused⟩ := stopped_refused hrun
      rw [readText_at_turn hnamed hscan hgroups hfix hrefused.script] at hread
      have hgroup : group ∈ groupByFile (numbered (FileResult.flatten scan.results)) := by
        rw [hgroups]
        simp
      obtain ⟨g, hg, hfile⟩ := file_of_group (List.mem_map_of_mem hgroup)
      rw [group_eq hgroup, ← hfile] at hrefused
      rw [← hfile] at hread
      exact absurd hrefused (haccepted g hg s hread)
  | ok outcome =>
      refine ⟨outcome, rfl, ?_⟩
      by_cases hempty : FileResult.flatten scan.results = []
      · rw [hempty] at hrun ⊢
        rw [← Except.ok.inj hrun]
        exact ⟨nofun, fun _ _ _ => Iff.rfl⟩
      rw [run_eq hempty] at hrun ⊢
      obtain ⟨hdisk, hmodified, hbackups, -⟩ := answer_ok hrun
      obtain ⟨acts, broken, h, -⟩ :=
        ended_reached d directory (numbered (FileResult.flatten scan.results))
      replace h := h.recorded
      rw [map_numbered] at h
      rw [hdisk, hmodified, hbackups]
      exact ⟨fun file => h.mem_backups, fun path hpath => (h.read_other hpath).2⟩

/-- A script whose literal is replaced. -/
theorem run_reports_script :
    let d : Disk :=
      { tree := .directory [("a.py", .file (Text.encodeUtf8 "x = \"redis://h\"\n".toList))] }
    let request : ScanRequest := ⟨".", defaultExtensions, defaultExclude, .all, "all"⟩
    let directory := FilePath.ofString "."
    ∃ scan outcome, Scan.project d Secrets.catalog request = .ok scan ∧
      (run d directory (FileResult.flatten scan.results)).2.2 = .ok outcome ∧
      outcome.modified = ["a.py"] ∧ backupPath "a.py" ∈ outcome.backups := by
  intro d request directory
  obtain ⟨scan, hscan, haccepted, hmodified⟩ :
      ∃ scan, Scan.project d Secrets.catalog request = .ok scan ∧
        (∀ f ∈ FileResult.flatten scan.results,
          ¬ Rewrite.Refused (Env.Mapping.ofFindings (FileResult.flatten scan.results))
            (FilePath.ofString f.file) ((d.readText f.file).toOption.getD [])
            ((numbered (FileResult.flatten scan.results)).filter (·.2.file = f.file))) ∧
        ∃ outcome, (run d directory (FileResult.flatten scan.results)).2.2 = .ok outcome ∧
          outcome.modified = ["a.py"] := by decide +kernel
  obtain ⟨outcome, hrun, hbackups, -⟩ := run_reports (by decide) hscan directory
    fun f hf s hs => by simpa [hs, Except.toOption] using haccepted f hf
  obtain ⟨outcome', hrun', hfiles⟩ := hmodified
  obtain rfl := Except.ok.inj (hrun.symm.trans hrun')
  exact ⟨scan, outcome, hscan, hrun, hfiles, hbackups _ (by rw [hfiles]; simp)⟩

/-- A script with a null character stops a run after it rewrote another file, and nothing is said
about that file. -/
theorem run_may_stop_unreported :
    ¬ ∀ (d : Disk) (request : ScanRequest) (scan : Scan.Outcome) (directory : FilePath),
      d.WellNamed → Scan.project d Secrets.catalog request = .ok scan →
      ∃ outcome, (run d directory (FileResult.flatten scan.results)).2.2 = .ok outcome := by
  intro h
  let source := Text.encodeUtf8 "x = \"redis://h\"\n".toList
  let script := Text.encodeUtf8 "x = \"redis://h\"\x00".toList
  let d : Disk := { tree := .directory [("a.js", .file source), ("b.py", .file script)] }
  let request : ScanRequest := ⟨".", defaultExtensions, defaultExclude, .all, "all"⟩
  let directory := FilePath.ofString "."
  obtain ⟨scan, hscan, hnone⟩ : ∃ scan, Scan.project d Secrets.catalog request = .ok scan ∧
      (run d directory (FileResult.flatten scan.results)).2.2.toOption = none := by
    decide +kernel
  obtain ⟨outcome, houtcome⟩ := h d request scan directory (by decide) hscan
  rw [houtcome] at hnone
  cases hnone

end SecretScan.Remediation

import SecretScan.Catalog.Secrets
import SecretScan.Proofs.Remediation.Turns
import SecretScan.Proofs.Scan.Project

/-!
# Backups hold what was in the files

The files of a scan are at different places, so the turn of one file leaves alone what an
earlier one backed up, unless a backup is scanned like any other file. None of the files beside
the sources is a backup. So whatever becomes of a run, the backup of a file that it reports as
modified holds what was in the file before (`backups_hold_originals`), unless it modified a file
and its backup: then the original is gone (`backup_may_lose_original`).
-/

namespace SecretScan.Remediation

open Files (Disk)
open Files.Disk (Writes)

theorem kind_backup (root : String) (names : List String) {name : String} (h : name ≠ "") :
    FilePath.kind ⟨root, names ++ [name ++ backupSuffix]⟩ = backupSuffix := by
  have hreverse : (name ++ backupSuffix).toList.reverse =
      ['p', 'u', 'k', 'c', 'a', 'b', '.'] ++ name.toList.reverse := by
    rw [String.toList_append, List.reverse_append]
    rfl
  have hsuffix : FilePath.suffixOf (name ++ backupSuffix) = backupSuffix := by
    cases hrest : name.toList.reverse with
    | nil => exact absurd (String.toList_eq_nil_iff.1 (List.reverse_eq_nil_iff.1 hrest)) h
    | cons c rest =>
        rw [FilePath.suffixOf, hreverse, hrest]
        rfl
  rw [FilePath.kind, FilePath.suffix, FilePath.name, List.getLastD_concat, hsuffix]
  decide

/-- A backup is no script. -/
theorem kind_backupPath (file : String) :
    (FilePath.ofString (backupPath file)).kind ≠ Rewrite.lookupSuffix := by
  obtain ⟨root, names, last, heq⟩ := Disk.ofString_append isEnding_backupSuffix file
  rw [backupPath, heq]
  by_cases hlast : last = ""
  · have hkind : Text.lowerText (FilePath.suffixOf ("" ++ backupSuffix)) ≠ Rewrite.lookupSuffix := by
      decide
    rwa [FilePath.kind, FilePath.suffix, FilePath.name, List.getLastD_concat, hlast]
  · rw [kind_backup root names hlast]
    decide

section Scanned

variable {d : Disk} {catalog : Catalog} {request : ScanRequest} {scan : Scan.Outcome}

/-- A scan that does not ask for backups finds nothing in the backup of a file in which it
found something. -/
theorem project_spares_backups (hnamed : d.WellNamed)
    (hscan : Scan.project d catalog request = .ok scan) (hkind : backupSuffix ∉ request.extensions)
    {f g : Finding} (hf : f ∈ FileResult.flatten scan.results)
    (hg : g ∈ FileResult.flatten scan.results) : f.file ≠ backupPath g.file := by
  intro heq
  obtain hfile | hfiles := Scan.project_files hnamed hscan
  · rw [hfile f hf, hfile g hg] at heq
    exact d.place_ne_append isEnding_backupSuffix _ (congrArg d.place heq)
  · obtain ⟨names, -, hnames, hasked, hfile⟩ := hfiles f hf
    obtain ⟨names', hne', hnames', -, hfile'⟩ := hfiles g hg
    have hroot := FilePath.normal_ofString request.path
    obtain ⟨front, last, hlast, hends, hadded⟩ :=
      Disk.toString_append (FilePath.ofString request.path) hne' hnames' isEnding_backupSuffix
    rw [hfile, hfile', backupPath, hadded] at heq
    have hplace := congrArg d.place heq
    rw [d.place_below hroot hnames, d.place_below hroot hends] at hplace
    rw [List.append_cancel_left hplace, ← List.append_assoc,
      kind_backup _ _ hlast.ne_empty] at hasked
    exact hkind hasked

/-- Nor does a run over its findings modify a file together with its backup. -/
theorem run_spares_backups (hnamed : d.WellNamed)
    (hscan : Scan.project d catalog request = .ok scan) (hkind : backupSuffix ∉ request.extensions)
    {directory : FilePath} {outcome : Outcome}
    (hrun : (run d directory (FileResult.flatten scan.results)).2.2 = .ok outcome)
    {file other : String} (hfile : file ∈ outcome.modified) (hother : other ∈ outcome.modified) :
    file ≠ backupPath other := by
  obtain ⟨f, hf, rfl⟩ := file_of_modified hrun hfile
  obtain ⟨g, hg, rfl⟩ := file_of_modified hrun hother
  exact project_spares_backups hnamed hscan hkind hf hg

/-- Every file of the findings has its own place. -/
theorem groups_apart (hnamed : d.WellNamed) (hscan : Scan.project d catalog request = .ok scan) :
    ((groupByFile (numbered (FileResult.flatten scan.results))).map (·.1)).Pairwise
      fun file file' => d.place file ≠ d.place file' := by
  have hnodup := nodup_eraseDups ((FileResult.flatten scan.results).map (·.file))
  rw [← files_of_groups] at hnodup
  refine hnodup.imp_of_mem ?_
  intro file file' hfile hfile' hne heq
  obtain ⟨f, hf, rfl⟩ := file_of_group hfile
  obtain ⟨g, hg, rfl⟩ := file_of_group hfile'
  exact hne ((Scan.project_apart hnamed hscan hf hg).1 heq)

/-- Files of the findings are apart if they are not spelled as the backups of each other. -/
theorem apart_of_spared (hnamed : d.WellNamed) (hscan : Scan.project d catalog request = .ok scan)
    {files : List String}
    (hfound : ∀ file ∈ files, ∃ f ∈ FileResult.flatten scan.results, f.file = file)
    {file : String} (hfile : file ∈ files)
    (hspared : ∀ other ∈ files, other ≠ backupPath file ∧ file ≠ backupPath other) :
    Apart d files file := by
  obtain ⟨f, hf, rfl⟩ := hfound file hfile
  constructor
  · intro other hother heq
    obtain ⟨g, hg, rfl⟩ := hfound other hother
    exact (hspared _ hother).1
      ((Scan.project_apart hnamed hscan hg hf).2 _ isEnding_backupSuffix heq)
  · intro other hother heq
    obtain ⟨g, hg, rfl⟩ := hfound other hother
    exact (hspared _ hother).2
      ((Scan.project_apart hnamed hscan hf hg).2 _ isEnding_backupSuffix heq)

end Scanned

/-- After a run over the findings of a scan, the backup of every file that it reports as modified
holds what was in that file, whether the run went well or failed; only a file that was modified
together with its backup is left out. -/
theorem backups_hold_originals {d : Disk} (hnamed : d.WellNamed) {catalog : Catalog}
    {request : ScanRequest} {scan : Scan.Outcome}
    (hscan : Scan.project d catalog request = .ok scan) (directory : FilePath) {outcome : Outcome}
    (hrun : (run d directory (FileResult.flatten scan.results)).2.2 = .ok outcome) {file : String}
    (hfile : file ∈ outcome.modified)
    (hspared : ∀ other ∈ outcome.modified, other ≠ backupPath file ∧ file ≠ backupPath other) :
    ∃ bytes, d.read file = .ok bytes ∧
      (run d directory (FileResult.flatten scan.results)).1.read (backupPath file) = .ok bytes := by
  have hapart : Apart d outcome.modified file :=
    apart_of_spared hnamed hscan (fun _ => file_of_modified hrun) hfile hspared
  obtain ⟨p, failure, hfiles, hmodified, -, paths, hwrites, hpaths⟩ := run_ran hrun
  rw [hmodified] at hfile hapart
  obtain ⟨bytes, hread, hbackup⟩ :=
    fixFiles_backups hfiles rfl (groups_apart hnamed hscan) file hfile hapart
  refine ⟨bytes, hread, (hwrites.read_other ?_).2 hbackup⟩
  intro path hpath
  obtain ⟨name, hname, rfl⟩ := List.mem_map.1 (hpaths path hpath)
  exact (artifact_ne_backup p.disk directory hname file).symm

/-- A file with an old backup, in a project that is scanned for what is scanned by default. -/
theorem backups_hold_originals_default :
    let source := Text.encodeUtf8 "x = \"redis://h\"\n".toList
    let d : Disk := { tree := .directory [("a.js", .file source), ("a.js.backup", .file [])] }
    let request : ScanRequest := ⟨".", defaultExtensions, defaultExclude, .all, "all"⟩
    let directory := FilePath.ofString "."
    ∃ scan outcome, Scan.project d Secrets.catalog request = .ok scan ∧
      (run d directory (FileResult.flatten scan.results)).2.2 = .ok outcome ∧
      "a.js" ∈ outcome.modified ∧
      (∀ other ∈ outcome.modified, other ≠ backupPath "a.js" ∧ "a.js" ≠ backupPath other) ∧
      ∃ bytes, d.read "a.js" = .ok bytes ∧
        (run d directory (FileResult.flatten scan.results)).1.read (backupPath "a.js") =
          .ok bytes := by
  intro source d request directory
  obtain ⟨scan, hscan, outcome, houtcome, hmodified⟩ :
      ∃ scan, Scan.project d Secrets.catalog request = .ok scan ∧
        ∃ outcome, (run d directory (FileResult.flatten scan.results)).2.2 = .ok outcome ∧
          outcome.modified = ["a.js"] := by decide +kernel
  have hfile : "a.js" ∈ outcome.modified := by rw [hmodified]; decide
  have hnamed : d.WellNamed := by decide
  have hkind : backupSuffix ∉ request.extensions := by decide
  have hspared : ∀ other ∈ outcome.modified,
      other ≠ backupPath "a.js" ∧ "a.js" ≠ backupPath other := fun other hother =>
    ⟨run_spares_backups hnamed hscan hkind houtcome hother hfile,
      run_spares_backups hnamed hscan hkind houtcome hfile hother⟩
  exact ⟨scan, outcome, hscan, houtcome, hfile, hspared,
    backups_hold_originals hnamed hscan directory houtcome hfile hspared⟩

/-- Where backups are scanned as well, the turn of a backup overwrites what an earlier turn
put there. -/
theorem backup_may_lose_original :
    ¬ ∀ (d : Disk) (request : ScanRequest) (scan : Scan.Outcome) (directory : FilePath)
      (outcome : Outcome), d.WellNamed → Scan.project d Secrets.catalog request = .ok scan →
      (run d directory (FileResult.flatten scan.results)).2.2 = .ok outcome →
      ∀ file ∈ outcome.modified, ∃ bytes, d.read file = .ok bytes ∧
        (run d directory (FileResult.flatten scan.results)).1.read (backupPath file) =
          .ok bytes := by
  intro h
  let source := Text.encodeUtf8 "x = \"redis://h\"\n".toList
  let d : Disk := { tree := .directory [("a.js", .file source), ("a.js.backup", .file source)] }
  let request : ScanRequest := ⟨".", [".js", backupSuffix], [], .all, "all"⟩
  let directory := FilePath.ofString "."
  obtain ⟨scan, hscan, outcome, houtcome, hfile, hlost⟩ :
      ∃ scan, Scan.project d Secrets.catalog request = .ok scan ∧
        ∃ outcome, (run d directory (FileResult.flatten scan.results)).2.2 = .ok outcome ∧
          "a.js" ∈ outcome.modified ∧
          (run d directory (FileResult.flatten scan.results)).1.read (backupPath "a.js") ≠
            d.read "a.js" := by decide +kernel
  obtain ⟨bytes, hread, hbackup⟩ :=
    h d request scan directory outcome (by decide) hscan houtcome "a.js" hfile
  exact hlost (hbackup.trans hread.symm)

end SecretScan.Remediation

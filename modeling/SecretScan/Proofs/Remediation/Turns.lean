import SecretScan.Proofs.Files.Paths
import SecretScan.Proofs.Remediation.Steps

/-!
# What a run writes to a disk

In the turn of a file its backup is written and then the file itself (`fixFile_cases`). So a
run over files writes nothing but files that it reports as modified and backups that it
reports (`fixFiles_ran`), and after that the files beside the sources (`writeArtifacts_writes`).
-/

namespace SecretScan.Remediation

open Files (Disk FileSystem)
open Files.Disk (Written Writes IsEnding written_of_write)
open Files.FileSystem (orSame orSame_eq_none orSame_eq_some)

variable {mapping : Env.Mapping}

/-! ## One file -/

@[simp]
theorem copyToBackup_disk (d : Disk) (file : String) :
    copyToBackup d file = orSame d (backUp d file) := by
  rw [backUp, copyToBackup, FileSystem.copy_disk]
  cases d.copy file (backupPath file) <;> rfl

theorem backUp_eq_ok {d d' : Disk} {file : String} : backUp d file = .ok d' ↔
    ∃ bytes, d.read file = .ok bytes ∧ d.write (backupPath file) bytes = .ok d' := by
  rw [← orSame_eq_none (d := d), ← copyToBackup_disk, copyToBackup, FileSystem.copy_disk,
    ← bind_eq_ok, ← Disk.copy]
  cases d.copy file (backupPath file) <;> simp [orSame]

theorem written_of_backUp {d d' : Disk} {file : String} (h : backUp d file = .ok d') :
    ∃ bytes, d.read file = .ok bytes ∧ Written d d' (backupPath file) bytes := by
  obtain ⟨bytes, hread, hwrite⟩ := backUp_eq_ok.1 h
  exact ⟨bytes, hread, written_of_write hwrite⟩

/-- The turn of a file leaves all as it is, or the file is backed up and its new text is written.
A failure is reported, unless a script was refused. -/
theorem fixFile_cases (p : Progress Disk) (file : String) (findings : List (Nat × Finding)) :
    (∃ failure, fixFile mapping p file findings = (p, failure) ∧
      ∀ f, failure = some f → isReported f = true ∨ ∃ s, p.disk.readText file = .ok s ∧
        Rewrite.Refused mapping (FilePath.ofString file) s findings ∧
        f = .value Script.nullMessage) ∨
    ∃ s new disk, p.disk.readText file = .ok s ∧
      Rewrite.source mapping (FilePath.ofString file) s findings = .ok new ∧ new.text ≠ s ∧
      backUp p.disk file = .ok disk ∧
      ((∃ e, disk.writeText file new.text = .error e ∧
        fixFile mapping p file findings = (p.backedUp file disk, some (.system e))) ∨
      ∃ disk', disk.writeText file new.text = .ok disk' ∧
        fixFile mapping p file findings = (p.rewritten file new.resolved disk', none)) := by
  obtain h | ⟨s, new, hread, hsource, hnew, ⟨disk, e, hcopy, heq⟩ | ⟨disk, hcopy, hcase⟩⟩ :=
    @fixFile_steps _ _ mapping p file findings
  · exact Or.inl h
  · obtain ⟨rfl, -⟩ := orSame_eq_some.1 hcopy
    refine Or.inl ⟨_, heq, fun f hf => Or.inl ?_⟩
    rw [← Option.some.inj hf]
    rfl
  · refine Or.inr ⟨s, new, disk, hread, hsource, hnew, ?_, ?_⟩
    · rw [backUp, copyToBackup, hcopy]
      rfl
    · obtain ⟨disk', e, hwrite, heq⟩ | ⟨disk', hwrite, heq⟩ := hcase
      · obtain ⟨rfl, hwrite⟩ := orSame_eq_some.1 hwrite
        exact Or.inl ⟨e, hwrite, heq⟩
      · exact Or.inr ⟨disk', orSame_eq_none.1 hwrite, heq⟩

/-- What a run has done on the way from one progress to another: the files that it modified,
the backups that it made, and nothing else. -/
structure Ran (p p' : Progress Disk) (done made : List String) : Prop where
  modified : p'.modified = p.modified ++ done
  backups : p'.backups = p.backups ++ made
  writes : ∃ paths, Writes p.disk p'.disk paths ∧ ∀ path ∈ paths, path ∈ done ∨ path ∈ made

theorem Ran.refl (p : Progress Disk) : Ran p p [] [] :=
  ⟨(List.append_nil _).symm, (List.append_nil _).symm, [], .none, fun _ h => absurd h List.not_mem_nil⟩

theorem Ran.trans {p p' p'' : Progress Disk} {done made done' made' : List String}
    (h : Ran p p' done made) (h' : Ran p' p'' done' made') :
    Ran p p'' (done ++ done') (made ++ made') := by
  obtain ⟨paths, hwrites, hpaths⟩ := h.writes
  obtain ⟨paths', hwrites', hpaths'⟩ := h'.writes
  refine ⟨by rw [h'.modified, h.modified, List.append_assoc],
    by rw [h'.backups, h.backups, List.append_assoc], paths ++ paths', hwrites.trans hwrites', ?_⟩
  intro path hpath
  rw [List.mem_append, List.mem_append]
  obtain hpath | hpath := List.mem_append.1 hpath
  · exact (hpaths path hpath).imp Or.inl Or.inl
  · exact (hpaths' path hpath).imp Or.inr Or.inr

theorem Ran.place_eq {p p' : Progress Disk} {done made : List String} (h : Ran p p' done made)
    (path : String) : p'.disk.place path = p.disk.place path := by
  obtain ⟨paths, hwrites, -⟩ := h.writes
  exact hwrites.place_eq path

/-- At a place where nothing was modified and no backup was made, the same is read as before. -/
theorem Ran.read_other {p p' : Progress Disk} {done made : List String} (h : Ran p p' done made)
    {other : String} (hdone : ∀ path ∈ done, p.disk.place other ≠ p.disk.place path)
    (hmade : ∀ path ∈ made, p.disk.place other ≠ p.disk.place path) {bytes : List UInt8} :
    p'.disk.read other = .ok bytes ↔ p.disk.read other = .ok bytes := by
  obtain ⟨paths, hwrites, hpaths⟩ := h.writes
  exact hwrites.read_other fun path hpath => (hpaths path hpath).elim (hdone path) (hmade path)

theorem isEnding_backupSuffix : IsEnding backupSuffix := by decide

/-- If a file is modified in its turn, the backup holds what was in it. -/
theorem fixFile_ran {p p' : Progress Disk} {file : String} {findings : List (Nat × Finding)}
    {failure : Option Failure} (h : fixFile mapping p file findings = (p', failure)) :
    ∃ done made, Ran p p' done made ∧ done.Sublist [file] ∧ made.Sublist [backupPath file] ∧
      (failure = none → made = done.map backupPath) ∧
      ∀ f ∈ done, ∃ bytes, p.disk.read f = .ok bytes ∧ p'.disk.read (backupPath f) = .ok bytes := by
  obtain ⟨failure', heq, -⟩ | ⟨s, new, disk, -, -, -, hbackUp, hcase⟩ := fixFile_cases p file findings
  · obtain ⟨rfl, -⟩ := Prod.mk.inj (heq.symm.trans h)
    exact ⟨[], [], Ran.refl p, List.nil_sublist _, List.nil_sublist _, fun _ => rfl, by simp⟩
  obtain ⟨bytes, hread, hbacked⟩ := written_of_backUp hbackUp
  obtain ⟨e, -, heq⟩ | ⟨disk', hwrite, heq⟩ := hcase
  · obtain ⟨rfl, rfl⟩ := Prod.mk.inj (heq.symm.trans h)
    have hwrites : Writes p.disk disk [backupPath file] := Writes.none.next hbacked
    exact ⟨[], [backupPath file], ⟨(List.append_nil _).symm, rfl, _, hwrites, by simp⟩,
      List.nil_sublist _, List.Sublist.refl _, by simp, by simp⟩
  · obtain ⟨rfl, -⟩ := Prod.mk.inj (heq.symm.trans h)
    have hwritten := written_of_write hwrite
    have hwrites : Writes p.disk disk' [backupPath file, file] :=
      (Writes.none.next hbacked).next hwritten
    refine ⟨[file], [backupPath file], ⟨rfl, rfl, _, hwrites, by simp⟩, List.Sublist.refl _,
      List.Sublist.refl _, fun _ => rfl, ?_⟩
    intro f hf
    rw [List.mem_singleton.1 hf]
    have hne : disk.place (backupPath file) ≠ disk.place file :=
      Ne.symm (disk.place_ne_append isEnding_backupSuffix file)
    exact ⟨bytes, hread, (hwritten.read_other hne).2 hbacked.read_same⟩

/-! ## All files -/

theorem fixFiles_ran {groups : List (String × List (Nat × Finding))} :
    ∀ {p p' : Progress Disk} {failure : Option Failure}, fixFiles mapping groups p = (p', failure) →
      ∃ done made, Ran p p' done made ∧ done.Sublist (groups.map (·.1)) ∧
        made.Sublist ((groups.map (·.1)).map backupPath) := by
  induction groups with
  | nil =>
      intro p p' failure h
      obtain ⟨rfl, -⟩ := Prod.mk.inj h
      exact ⟨[], [], Ran.refl p, List.Sublist.refl _, List.Sublist.refl _⟩
  | cons group groups ih =>
      intro p p' failure h
      obtain ⟨f, hfix, -⟩ | ⟨p₁, hfix, h⟩ := fixFiles_cons h
      · obtain ⟨done, made, hran, hdone, hmade, -, -⟩ := fixFile_ran hfix
        exact ⟨done, made, hran, hdone.trans (List.sublist_append_left [_] _),
          hmade.trans (List.sublist_append_left [_] _)⟩
      · obtain ⟨done, made, hran, hdone, hmade, -, -⟩ := fixFile_ran hfix
        obtain ⟨done', made', hran', hdone', hmade'⟩ := ih h
        exact ⟨done ++ done', made ++ made', hran.trans hran', hdone.append hdone',
          hmade.append hmade'⟩

/-- Neither is the backup of a file one of some files, nor is the file the backup of one of
them. -/
structure Apart (d : Disk) (files : List String) (file : String) : Prop where
  backup : ∀ other ∈ files, d.place other ≠ d.place (backupPath file)
  file : ∀ other ∈ files, d.place file ≠ d.place (backupPath other)

theorem Apart.subset {d : Disk} {files files' : List String} {file : String}
    (h : Apart d files file) (hsub : ∀ other ∈ files', other ∈ files) : Apart d files' file :=
  ⟨fun other hother => h.backup other (hsub other hother),
    fun other hother => h.file other (hsub other hother)⟩

theorem Ran.apart {p p' : Progress Disk} {done made files : List String} {file : String}
    (h : Ran p p' done made) (hapart : Apart p.disk files file) : Apart p'.disk files file :=
  ⟨fun other hother => by rw [h.place_eq, h.place_eq]; exact hapart.backup other hother,
    fun other hother => by rw [h.place_eq, h.place_eq]; exact hapart.file other hother⟩

/-- The turns of files at other places spare a file. -/
theorem Ran.read_file {p p' : Progress Disk} {done : List String} {file : String}
    (h : Ran p p' done (done.map backupPath))
    (hplaces : ∀ other ∈ done, p.disk.place other ≠ p.disk.place file)
    (hapart : Apart p.disk done file) {bytes : List UInt8} :
    p'.disk.read file = .ok bytes ↔ p.disk.read file = .ok bytes := by
  refine h.read_other (fun path hpath => (hplaces path hpath).symm) ?_
  intro path hpath
  obtain ⟨other, hother, rfl⟩ := List.mem_map.1 hpath
  exact hapart.file other hother

/-- The turns of files at other places spare the backup of a file. -/
theorem Ran.read_backup {p p' : Progress Disk} {done made files : List String} {file : String}
    (h : Ran p p' done made) (hmade : ∀ path ∈ made, path ∈ files.map backupPath)
    (hplaces : ∀ other ∈ files, p.disk.place file ≠ p.disk.place other)
    (hapart : Apart p.disk done file) {bytes : List UInt8} :
    p'.disk.read (backupPath file) = .ok bytes ↔ p.disk.read (backupPath file) = .ok bytes := by
  refine h.read_other (fun path hpath => (hapart.backup path hpath).symm) ?_
  intro path hpath
  obtain ⟨other, hother, rfl⟩ := List.mem_map.1 (hmade path hpath)
  exact fun heq => hplaces other hother (p.disk.place_eq_of_append isEnding_backupSuffix heq)

/-- The backup of a modified file holds what was in the file, if the two are apart from the
other files that were modified. -/
theorem fixFiles_backups {groups : List (String × List (Nat × Finding))} :
    ∀ {p p' : Progress Disk} {failure : Option Failure} {done : List String},
      fixFiles mapping groups p = (p', failure) → p'.modified = p.modified ++ done →
      ((groups.map (·.1)).Pairwise fun f g => p.disk.place f ≠ p.disk.place g) →
      ∀ file ∈ done, Apart p.disk done file →
        ∃ bytes, p.disk.read file = .ok bytes ∧ p'.disk.read (backupPath file) = .ok bytes := by
  induction groups with
  | nil =>
      intro p p' failure done h hmodified _ file hfile
      obtain ⟨rfl, -⟩ := Prod.mk.inj h
      rw [List.self_eq_append_right.1 hmodified] at hfile
      cases hfile
  | cons group groups ih =>
      intro p p' failure done h hmodified hplaces file hfile hapart
      rw [List.map_cons, List.pairwise_cons] at hplaces
      obtain ⟨f, hfix, -⟩ | ⟨p₁, hfix, h⟩ := fixFiles_cons h
      · obtain ⟨done₁, made₁, hran₁, -, -, -, hbacked⟩ := fixFile_ran hfix
        rw [hran₁.modified, List.append_cancel_left_eq] at hmodified
        subst hmodified
        exact hbacked file hfile
      · obtain ⟨done₁, made₁, hran₁, hdone₁, -, hmade₁, hbacked⟩ := fixFile_ran hfix
        obtain rfl := hmade₁ rfl
        obtain ⟨done₂, made₂, hran₂, hdone₂, hmade₂⟩ := fixFiles_ran h
        rw [hran₂.modified, hran₁.modified, List.append_assoc] at hmodified
        obtain rfl := List.append_cancel_left hmodified
        have hapart₁ : Apart p.disk done₁ file :=
          hapart.subset fun _ => List.mem_append_left done₂
        have hapart₂ : Apart p₁.disk done₂ file :=
          hran₁.apart (hapart.subset fun _ => List.mem_append_right done₁)
        have hplaces' : (groups.map (·.1)).Pairwise fun f g =>
            p₁.disk.place f ≠ p₁.disk.place g := by
          simpa only [hran₁.place_eq] using hplaces.2
        obtain hfile | hfile := List.mem_append.1 hfile
        · -- the backup is made in this turn, and later turns spare it
          obtain ⟨bytes, hread, hbackup⟩ := hbacked file hfile
          obtain rfl := List.mem_singleton.1 (hdone₁.subset hfile)
          have hmade : ∀ path ∈ made₂, path ∈ (groups.map (·.1)).map backupPath :=
            fun _ hpath => hmade₂.subset hpath
          refine ⟨bytes, hread, (hran₂.read_backup hmade ?_ hapart₂).2 hbackup⟩
          simpa only [hran₁.place_eq] using hplaces.1
        · -- the file is modified in a later turn, and this one spared it
          obtain ⟨bytes, hread, hbackup⟩ := ih h hran₂.modified hplaces' file hfile hapart₂
          refine ⟨bytes, (hran₁.read_file ?_ hapart₁).1 hread, hbackup⟩
          intro other hother
          rw [List.mem_singleton.1 (hdone₁.subset hother)]
          exact hplaces.1 file (hdone₂.subset hfile)

/-! ## The files beside the sources -/

theorem artifactNames_endings : ∀ name ∈ artifactNames, FilePath.IsEntry name ∧ IsEnding name ∧
    name.toList.getLast? ≠ backupSuffix.toList.getLast? := by decide

/-- The name of a file beside the sources is the end of its path. -/
theorem artifact_eq (directory : FilePath) {name : String} (hname : name ∈ artifactNames) :
    artifact directory name =
      FilePath.toString ⟨directory.root, directory.names ++ [""]⟩ ++ name := by
  obtain ⟨hentry, -⟩ := artifactNames_endings name hname
  rw [artifact, FilePath.join_name _ hentry.toIsName, ← FilePath.toString_concat,
    String.empty_append]

/-- None of the files beside the sources is a backup. -/
theorem artifact_ne_backup (d : Disk) (directory : FilePath) {name : String}
    (hname : name ∈ artifactNames) (file : String) :
    d.place (artifact directory name) ≠ d.place (backupPath file) := by
  obtain ⟨-, hending, hlast⟩ := artifactNames_endings name hname
  rw [artifact_eq directory hname]
  exact d.place_append_ne hending isEnding_backupSuffix hlast _ _

/-- The files beside the sources are at different places. -/
theorem artifact_inj (d : Disk) (directory : FilePath) {name name' : String}
    (hname : name ∈ artifactNames) (hname' : name' ∈ artifactNames)
    (h : d.place (artifact directory name) = d.place (artifact directory name')) :
    name = name' := by
  rw [artifact_eq directory hname, artifact_eq directory hname'] at h
  exact d.place_append_inj (artifactNames_endings name hname).2.1
    (artifactNames_endings name' hname').2.1 h

section Artifacts

variable {d d' : Disk} {directory : FilePath} {path : String} {f : Failure}

theorem completeGitignore_complete {old : Option (List Char)}
    (hold : existing d (artifact directory Gitignore.fileName) = .ok old)
    (hcomplete : Gitignore.completed? old = none) : completeGitignore d directory = .ok none := by
  rw [completeGitignore, writeGitignore, hold]
  simp only [hcomplete]

theorem completeGitignore_written {old : Option (List Char)} {s : List Char}
    (hold : existing d (artifact directory Gitignore.fileName) = .ok old)
    (hnew : Gitignore.completed? old = some s)
    (hwrite : d.writeText (artifact directory Gitignore.fileName) s = .ok d') :
    completeGitignore d directory = .ok (some d') := by
  rw [completeGitignore, writeGitignore, hold]
  simp only [hnew, FileSystem.writeText_disk, hwrite]
  rfl

/-- The files beside the sources are written in their order, up to the first failure, which is
reported. -/
theorem writeArtifacts_cases {p p' : Progress Disk} {failure : Option Failure}
    (h : writeArtifacts mapping directory p = (p', failure)) :
    (∀ f, failure = some f → isReported f = true) ∧
    ((failure ≠ none ∧ p' = p) ∨ ∃ old disk,
      existing p.disk (artifact directory Env.fileName) = .ok old ∧
      p.disk.writeText (artifact directory Env.fileName)
        (Env.append old (mapping.entries.map fun e => (e.name, e.value))) = .ok disk ∧
      ((failure ≠ none ∧ p' = { p with disk }) ∨ ∃ disk',
        disk.writeText (artifact directory Env.exampleName) (Env.exampleFile mapping.names) =
          .ok disk' ∧
        (p' = { p with disk := disk' } ∨ ∃ s disk'',
          disk'.writeText (artifact directory Gitignore.fileName) s = .ok disk'' ∧
          p' = { p with disk := disk'' }))) := by
  obtain ⟨disk, rfl, ⟨hfailed, henv⟩ | ⟨disk₁, henv, hcase⟩⟩ := writeArtifacts_steps h
  · obtain ⟨rfl, f, rfl, hreported⟩ | ⟨old, e, -, hwrite, rfl⟩ := writeEnv_steps henv
    · exact ⟨fun _ hf => Option.some.inj hf ▸ hreported, Or.inl ⟨hfailed, rfl⟩⟩
    · cases e with
      | none => exact absurd rfl hfailed
      | some e =>
          obtain ⟨rfl, -⟩ := orSame_eq_some.1 hwrite
          exact ⟨fun _ hf => Option.some.inj hf ▸ rfl, Or.inl ⟨hfailed, rfl⟩⟩
  obtain ⟨-, f, hf, -⟩ | ⟨old, e, hold, hwrite, he⟩ := writeEnv_steps henv
  · cases hf
  obtain rfl := Option.map_eq_none_iff.1 he.symm
  have henv := orSame_eq_none.1 hwrite
  obtain ⟨hfailed, hexample⟩ | ⟨disk₂, r, hexample, hignore, hr⟩ := hcase
  · obtain ⟨f, rfl⟩ := Option.ne_none_iff_exists'.1 hfailed
    rw [writeEnvExample, FileSystem.writeText_disk] at hexample
    obtain ⟨rfl, hexample⟩ := orSame_eq_some.1 hexample
    exact ⟨fun _ hf => Option.some.inj hf ▸ isReported_system hexample,
      Or.inr ⟨old, _, hold, henv, Or.inl ⟨hfailed, rfl⟩⟩⟩
  rw [writeEnvExample, FileSystem.writeText_disk] at hexample
  have hexample := mapError_eq_ok.1 (orSame_eq_none.1 hexample)
  refine ⟨fun f hf => ?_, Or.inr ⟨old, disk₁, hold, henv, Or.inr ⟨disk₂, hexample, ?_⟩⟩⟩
  · obtain ⟨-, hreported⟩ | ⟨s, e, -, rfl⟩ := writeGitignore_steps hignore
    · exact hreported f ((hr f).1 hf)
    · cases e <;> cases (hr f).1 hf
      rfl
  · obtain ⟨rfl, -⟩ | ⟨s, e, hwrite, rfl⟩ := writeGitignore_steps hignore
    · exact Or.inl rfl
    · cases e with
      | none => exact Or.inr ⟨s, disk, orSame_eq_none.1 hwrite, rfl⟩
      | some e =>
          obtain ⟨rfl, -⟩ := orSame_eq_some.1 hwrite
          exact Or.inl rfl

/-- What is written beside the sources, up to the first failure, is in the files of that
kind. -/
theorem writeArtifacts_writes {p p' : Progress Disk} {failure : Option Failure}
    (h : writeArtifacts mapping directory p = (p', failure)) :
    p'.modified = p.modified ∧ p'.backups = p.backups ∧
      ∃ paths, Writes p.disk p'.disk paths ∧
        ∀ path ∈ paths, path ∈ artifactNames.map (artifact directory) := by
  obtain ⟨-, ⟨-, rfl⟩ | ⟨old, disk, -, henv, hcase⟩⟩ := writeArtifacts_cases h
  · exact ⟨rfl, rfl, [], .none, by simp⟩
  have hwrites := Writes.none.next (written_of_write henv)
  obtain ⟨-, rfl⟩ | ⟨disk', hexample, hcase⟩ := hcase
  · exact ⟨rfl, rfl, _, hwrites, by simp [artifactNames]⟩
  have hwrites' := hwrites.next (written_of_write hexample)
  obtain rfl | ⟨s, disk'', hignore, rfl⟩ := hcase
  · exact ⟨rfl, rfl, _, hwrites', by simp [artifactNames]⟩
  · exact ⟨rfl, rfl, _, hwrites'.next (written_of_write hignore), by simp [artifactNames]⟩

end Artifacts

/-! ## A run -/

theorem run_eq {findings : List Finding} (h : findings ≠ []) (d : Disk) (directory : FilePath) :
    run d directory findings = answer (Env.Mapping.ofFindings findings) (numbered findings)
      (ended (Env.Mapping.ofFindings findings) d directory (numbered findings)) := by
  have hne : numbered findings ≠ [] := by
    intro hnone
    rw [← map_numbered findings, hnone] at h
    exact h rfl
  rw [run, runOn, if_neg (by simpa using hne), map_numbered]

/-- A run that has an outcome did the turns of the files, up to the first failure, and then it
wrote beside the sources. -/
theorem run_ran {d : Disk} {directory : FilePath} {findings : List Finding} {outcome : Outcome}
    (h : (run d directory findings).2.2 = .ok outcome) :
    ∃ (p : Progress Disk) (failure : Option Failure),
      fixFiles (Env.Mapping.ofFindings findings) (groupByFile (numbered findings)) { disk := d } =
        (p, failure) ∧
      outcome.modified = p.modified ∧ outcome.backups = p.backups ∧
      ∃ paths, Writes p.disk (run d directory findings).1 paths ∧
        ∀ path ∈ paths, path ∈ artifactNames.map (artifact directory) := by
  by_cases hempty : findings = []
  · subst hempty
    rw [← Except.ok.inj h]
    exact ⟨{ disk := d }, none, rfl, rfl, rfl, [], .none, by simp⟩
  · rw [run_eq hempty] at h ⊢
    obtain ⟨hdisk, hmodified, hbackups, -⟩ := answer_ok h
    rw [hdisk, hmodified, hbackups, ended]
    split
    · next p f hfiles => exact ⟨p, some f, hfiles, rfl, rfl, [], .none, by simp⟩
    · next p hfiles =>
        obtain ⟨hmodified', hbackups', hwrites⟩ := writeArtifacts_writes
          (Prod.eta (writeArtifacts (Env.Mapping.ofFindings findings) directory p)).symm
        exact ⟨p, none, hfiles, hmodified', hbackups', hwrites⟩

/-- Only files in which something was found are modified. -/
theorem file_of_modified {d : Disk} {directory : FilePath} {findings : List Finding}
    {outcome : Outcome} (h : (run d directory findings).2.2 = .ok outcome) {file : String}
    (hfile : file ∈ outcome.modified) : ∃ f ∈ findings, f.file = file := by
  obtain ⟨p, failure, hfiles, hmodified, -⟩ := run_ran h
  obtain ⟨done, made, hran, hdone, -⟩ := fixFiles_ran hfiles
  obtain rfl : p.modified = done := hran.modified
  rw [hmodified] at hfile
  exact file_of_group (hdone.subset hfile)

end SecretScan.Remediation

import SecretScan.Proofs.Files.FileSystem
import SecretScan.Proofs.Remediation.Groups
import SecretScan.Proofs.Rewrite.Pass
import SecretScan.Remediation.Run

/-!
# The steps of a run

On any file system the turn of a file ends in one of four ways: nothing is written, the copy to
its backup fails, its new text cannot be written, or both go well (`fixFile_steps`). The turns
follow each other up to the first failure (`fixFiles_cons`), then come the files beside the
sources. What a run answers is read off how far it got (`answer_ok`).
-/

namespace SecretScan.Remediation

open Files (FileSystem)

section FileSystem

variable {σ : Type} [FileSystem σ] {mapping : Env.Mapping}

/-! ## What is reported -/

/-! What the system refuses is reported, and so is a file that is no text. -/

theorem isReported_system {α : Type} {x : Except Files.SystemError α} {f : Failure}
    (h : x.mapError Failure.system = .error f) : isReported f = true := by
  cases x with
  | error e => cases h; rfl
  | ok a => cases h

variable {d d' : σ} {directory : FilePath} {path : String} {f : Failure}

theorem isReported_readText (h : FileSystem.readText d path = .error f) :
    isReported f = true := by
  rw [FileSystem.readText, Files.textOf.eq_def] at h
  split at h
  · cases h; rfl
  · split at h
    · cases h
    · cases h; rfl

theorem isReported_existing (h : existing d path = .error f) : isReported f = true := by
  rw [existing] at h
  obtain h | ⟨there, -, h⟩ := bind_eq_error.1 h
  · exact isReported_system h
  · cases there with
    | false => cases h
    | true =>
        obtain h | ⟨s, -, h⟩ := bind_eq_error.1 h
        · exact isReported_readText h
        · cases h

/-! ## The turns of the files -/

/-- The progress after the turn of a file in which all went well. -/
@[simps]
def Progress.rewritten (p : Progress σ) (file : String) (resolved : List Nat) (disk : σ) :
    Progress σ where
  disk
  modified := p.modified ++ [file]
  backups := p.backups ++ [backupPath file]
  resolved := p.resolved ++ resolved

/-- The progress after the copy of a file to its backup. -/
@[simps]
def Progress.backedUp (p : Progress σ) (file : String) (disk : σ) : Progress σ :=
  { p with disk, backups := p.backups ++ [backupPath file] }

/-- The turn of a file leaves all as it is; or the file is copied to its backup, and then its new
text is written. A failure is reported, unless a script was refused. -/
theorem fixFile_steps (p : Progress σ) (file : String) (findings : List (Nat × Finding)) :
    (∃ failure, fixFile mapping p file findings = (p, failure) ∧
      ∀ f, failure = some f → isReported f = true ∨
        ∃ s, FileSystem.readText p.disk file = .ok s ∧
          Rewrite.Refused mapping (FilePath.ofString file) s findings ∧
          f = .value Script.nullMessage) ∨
    ∃ s new, FileSystem.readText p.disk file = .ok s ∧
      Rewrite.source mapping (FilePath.ofString file) s findings = .ok new ∧ new.text ≠ s ∧
      ((∃ disk e, FileSystem.copy p.disk file (backupPath file) = (disk, some e) ∧
        fixFile mapping p file findings = ({ p with disk }, some (.system e))) ∨
      ∃ disk, FileSystem.copy p.disk file (backupPath file) = (disk, none) ∧
        ((∃ disk' e,
          FileSystem.write disk file (Text.encodeUtf8 new.text) = (disk', some e) ∧
          fixFile mapping p file findings = (p.backedUp file disk', some (.system e))) ∨
        ∃ disk', FileSystem.write disk file (Text.encodeUtf8 new.text) = (disk', none) ∧
          fixFile mapping p file findings = (p.rewritten file new.resolved disk', none))) := by
  rw [fixFile]
  split
  · exact Or.inl ⟨none, rfl, nofun⟩
  · split
    · next f hread =>
        refine Or.inl ⟨some f, rfl, fun f' hf' => Or.inl ?_⟩
        rw [← Option.some.inj hf']
        exact isReported_readText hread
    · next s hread =>
        split
        · next message hsource =>
            obtain ⟨hrefused, rfl⟩ := Rewrite.source_eq_error.1 hsource
            exact Or.inl ⟨_, rfl, fun f' hf' =>
              Or.inr ⟨s, hread, hrefused, (Option.some.inj hf').symm⟩⟩
        · next new hsource =>
            split
            · exact Or.inl ⟨none, rfl, nofun⟩
            · next hnew =>
                refine Or.inr ⟨s, new, hread, hsource, hnew, ?_⟩
                rw [copyToBackup]
                rcases hcopy : FileSystem.copy p.disk file (backupPath file) with ⟨disk, _ | e⟩
                · refine Or.inr ⟨disk, rfl, ?_⟩
                  simp only [Option.map_none, FileSystem.writeText]
                  rcases hwrite : FileSystem.write disk file (Text.encodeUtf8 new.text)
                    with ⟨disk', _ | e⟩
                  · exact Or.inr ⟨disk', rfl, rfl⟩
                  · exact Or.inl ⟨disk', e, rfl, rfl⟩
                · exact Or.inl ⟨disk, e, rfl, rfl⟩

/-- A failure in the turn of the first file is the failure of the run; otherwise the turns of the
other files follow. -/
theorem fixFiles_cons {group : String × List (Nat × Finding)}
    {groups : List (String × List (Nat × Finding))} {p p' : Progress σ} {failure : Option Failure}
    (h : fixFiles mapping (group :: groups) p = (p', failure)) :
    (∃ f, fixFile mapping p group.1 group.2 = (p', some f) ∧ failure = some f) ∨
    ∃ p₁, fixFile mapping p group.1 group.2 = (p₁, none) ∧
      fixFiles mapping groups p₁ = (p', failure) := by
  rw [fixFiles] at h
  split at h
  · next p₁ f hfix =>
      obtain ⟨rfl, rfl⟩ := Prod.mk.inj h
      exact Or.inl ⟨f, hfix, rfl⟩
  · next p₁ hfix => exact Or.inr ⟨p₁, hfix, h⟩

/-- A file is modified in its turn or it is not. -/
theorem fixFile_modified (p : Progress σ) (file : String) (findings : List (Nat × Finding)) :
    ∃ done : List String, done.Sublist [file] ∧
      (fixFile mapping p file findings).1.modified = p.modified ++ done := by
  obtain ⟨failure, heq, -⟩ | ⟨s, new, -, -, -, ⟨disk, e, -, heq⟩ | ⟨disk, -, ⟨disk', e, -, heq⟩ |
    ⟨disk', -, heq⟩⟩⟩ := @fixFile_steps _ _ mapping p file findings
  · exact ⟨[], List.nil_sublist _, by simp [heq]⟩
  · exact ⟨[], List.nil_sublist _, by simp [heq]⟩
  · exact ⟨[], List.nil_sublist _, by simp [heq]⟩
  · exact ⟨[file], List.Sublist.refl _, by simp [heq]⟩

/-- Files are modified in the order of their turns. -/
theorem fixFiles_modified (groups : List (String × List (Nat × Finding))) (p : Progress σ) :
    ∃ done : List String, done.Sublist (groups.map (·.1)) ∧
      (fixFiles mapping groups p).1.modified = p.modified ++ done := by
  induction groups generalizing p with
  | nil => exact ⟨[], List.Sublist.refl _, (List.append_nil _).symm⟩
  | cons group groups ih =>
      obtain ⟨done, hdone, hfirst⟩ := @fixFile_modified _ _ mapping p group.1 group.2
      obtain ⟨f, hfix, -⟩ | ⟨p₁, hfix, hrest⟩ :=
        fixFiles_cons (Prod.eta (fixFiles mapping (group :: groups) p)).symm
      · rw [hfix] at hfirst
        exact ⟨done, hdone.trans (List.sublist_append_left [_] _), hfirst⟩
      · obtain ⟨done', hdone', hlater⟩ := ih p₁
        rw [hfix] at hfirst
        rw [hrest] at hlater
        exact ⟨done ++ done', hdone.append hdone', by rw [hlater, hfirst, List.append_assoc]⟩

/-! ## The files beside the sources -/

/-- The names of the files beside the sources. -/
def artifactNames : List String := [Env.fileName, Env.exampleName, Gitignore.fileName]

theorem writeEnv_steps {assignments : List (String × String)} {failure : Option Failure}
    (h : writeEnv d directory assignments = (d', failure)) :
    (d' = d ∧ ∃ f, failure = some f ∧ isReported f = true) ∨
    ∃ old e, existing d (artifact directory Env.fileName) = .ok old ∧
      FileSystem.write d (artifact directory Env.fileName)
        (Text.encodeUtf8 (Env.append old assignments)) = (d', e) ∧ failure = e.map .system := by
  rw [writeEnv] at h
  cases hold : existing d (artifact directory Env.fileName) with
  | error f =>
      rw [hold] at h
      obtain ⟨rfl, rfl⟩ := Prod.mk.inj h
      exact Or.inl ⟨rfl, f, rfl, isReported_existing hold⟩
  | ok old =>
      rw [hold] at h
      obtain ⟨rfl, rfl⟩ := Prod.mk.inj h
      exact Or.inr ⟨old, _, rfl, rfl, rfl⟩

theorem writeGitignore_steps {r : Except Failure Bool}
    (h : writeGitignore d directory = (d', r)) :
    (d' = d ∧ ∀ f, r = .error f → isReported f = true) ∨
    ∃ s e, FileSystem.write d (artifact directory Gitignore.fileName) (Text.encodeUtf8 s) =
      (d', e) ∧ r = e.elim (.ok true) fun e => .error (.system e) := by
  rw [writeGitignore] at h
  cases hold : existing d (artifact directory Gitignore.fileName) with
  | error f =>
      rw [hold] at h
      obtain ⟨rfl, rfl⟩ := Prod.mk.inj h
      exact Or.inl ⟨rfl, fun _ hf => Except.error.inj hf ▸ isReported_existing hold⟩
  | ok old =>
      rw [hold] at h
      cases hnew : Gitignore.completed? old with
      | none =>
          simp only [hnew] at h
          obtain ⟨rfl, rfl⟩ := Prod.mk.inj h
          exact Or.inl ⟨rfl, nofun⟩
      | some s =>
          simp only [hnew, FileSystem.writeText] at h
          rcases hwrite : FileSystem.write d (artifact directory Gitignore.fileName)
            (Text.encodeUtf8 s) with ⟨disk, _ | e⟩ <;> rw [hwrite] at h
          all_goals
            obtain ⟨rfl, rfl⟩ := Prod.mk.inj h
            exact Or.inr ⟨s, _, hwrite, rfl⟩

/-- The files beside the sources are written in their order, up to the first failure. -/
theorem writeArtifacts_steps {p p' : Progress σ} {failure : Option Failure}
    (h : writeArtifacts mapping directory p = (p', failure)) :
    ∃ disk, p' = { p with disk } ∧
      ((failure ≠ none ∧ writeEnv p.disk directory
          (mapping.entries.map fun e => (e.name, e.value)) = (disk, failure)) ∨
      ∃ disk₁, writeEnv p.disk directory
          (mapping.entries.map fun e => (e.name, e.value)) = (disk₁, none) ∧
        ((failure ≠ none ∧
          writeEnvExample disk₁ directory mapping.names = (disk, failure)) ∨
        ∃ disk₂ r, writeEnvExample disk₁ directory mapping.names = (disk₂, none) ∧
          writeGitignore disk₂ directory = (disk, r) ∧
          ∀ f, failure = some f ↔ r = .error f)) := by
  rw [writeArtifacts] at h
  rcases henv : writeEnv p.disk directory (mapping.entries.map fun e => (e.name, e.value))
    with ⟨disk₁, _ | f⟩ <;> simp only [henv] at h
  · rcases hexample : writeEnvExample disk₁ directory mapping.names with ⟨disk₂, _ | f⟩ <;>
      simp only [hexample] at h
    · rcases hignore : writeGitignore disk₂ directory with ⟨disk, f | changed⟩ <;>
        simp only [hignore] at h <;> obtain ⟨rfl, rfl⟩ := Prod.mk.inj h
      · exact ⟨disk, rfl, Or.inr ⟨disk₁, henv, Or.inr ⟨disk₂, _, hexample, hignore, by simp⟩⟩⟩
      · exact ⟨disk, rfl, Or.inr ⟨disk₁, henv, Or.inr ⟨disk₂, _, hexample, hignore, by simp⟩⟩⟩
    · obtain ⟨rfl, rfl⟩ := Prod.mk.inj h
      exact ⟨disk₂, rfl, Or.inr ⟨disk₁, henv, Or.inl ⟨nofun, hexample⟩⟩⟩
  · obtain ⟨rfl, rfl⟩ := Prod.mk.inj h
    exact ⟨disk₁, rfl, Or.inl ⟨nofun, henv⟩⟩

theorem writeArtifacts_modified (directory : FilePath) (p : Progress σ) :
    (writeArtifacts mapping directory p).1.modified = p.modified := by
  obtain ⟨disk, heq, -⟩ := writeArtifacts_steps (Prod.eta (writeArtifacts mapping directory p)).symm
  rw [heq]

/-! ## A run -/

/-- No source is overwritten after the turns of the files. -/
theorem ended_turns (d : σ) (directory : FilePath) (findings : List (Nat × Finding)) :
    (ended mapping d directory findings).1.modified =
      (fixFiles mapping (groupByFile findings) { disk := d }).1.modified := by
  rw [ended]
  split
  · next p f hfix => rw [hfix]
  · next p hfix => rw [hfix, writeArtifacts_modified]

/-- Files are modified in the order of their first findings. -/
theorem ended_modified (d : σ) (directory : FilePath) (findings : List (Nat × Finding)) :
    (ended mapping d directory findings).1.modified.Sublist
      (findings.map (·.2.file)).eraseDups := by
  obtain ⟨done, hdone, heq⟩ :=
    @fixFiles_modified _ _ mapping (groupByFile findings) { disk := d }
  rw [ended_turns, heq, List.nil_append, ← files_groupByFile]
  exact hdone

end FileSystem

theorem answer_ok {σ : Type} {mapping : Env.Mapping} {findings : List (Nat × Finding)}
    {reached : Progress σ × Option Failure} {outcome : Outcome}
    (h : (answer mapping findings reached).2.2 = .ok outcome) :
    (answer mapping findings reached).1 = reached.1.disk ∧ outcome.modified = reached.1.modified ∧
      outcome.backups = reached.1.backups ∧ (outcome.success = true ↔ reached.2 = none) ∧
      (reached.2 = none → outcome = succeeded mapping findings reached.1) := by
  obtain ⟨p, _ | f⟩ := reached
  · rw [← Except.ok.inj h]
    exact ⟨rfl, rfl, rfl, iff_of_true rfl rfl, fun _ => rfl⟩
  · rw [answer] at h ⊢
    split at h
    · next hreported =>
        rw [if_pos hreported, ← Except.ok.inj h]
        exact ⟨rfl, rfl, rfl, iff_of_false nofun nofun, nofun⟩
    · cases h

end SecretScan.Remediation

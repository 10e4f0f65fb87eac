import SecretScan.Catalog.Secrets
import SecretScan.Proofs.Env.File
import SecretScan.Proofs.Env.Naming
import SecretScan.Proofs.Remediation.Turns
import SecretScan.Scan.Content

/-!
# The environment after a run

A run that went well has added one line for every secret to the environment file: nothing that
it wrote before touches that file, unless it is a source itself, and what it writes after that
is at other places. So the file holds its old text and the new lines (`environment_holds_secrets`).
-/

namespace SecretScan.Remediation

open Files (Disk FileSystem)
open Files.Disk (Written Writes written_of_write)
open Env (Mapping Unbroken IsLine)
open Env.Mapping (firstFindings)

section Existing

variable {d d' d'' : Disk} {path : String} {old : Option (List Char)}

/-- At a place that can be written to there is nothing, or a file with a text. -/
theorem existing_eq_ok {place : List String} (hlocate : d.locate path = .ok place)
    (hdir : ¬ d.tree.HasDirectory place) : existing d path = .ok old ↔
      (old = none ∧ ∀ bytes, d.tree.get? place ≠ some (.file bytes)) ∨
      ∃ bytes s, d.tree.get? place = some (.file bytes) ∧ Text.decodeUtf8 bytes = some s ∧
        old = some s := by
  cases hget : d.tree.get? place with
  | none =>
      have hthere : d.exists? path = .ok false := by
        simp [Disk.exists?, Disk.node, hlocate, hget, bind, Except.bind, throw, throwThe,
          MonadExceptOf.throw]
      rw [existing, FileSystem.exists?_disk, hthere]
      simp [Except.mapError, bind, Except.bind, pure, Except.pure, eq_comm]
  | some n =>
      cases n with
      | directory entries => exact absurd ⟨entries, hget⟩ hdir
      | file bytes =>
          have hnode : d.node path = .ok (.file bytes) := Disk.node_eq_ok.2 ⟨place, hlocate, hget⟩
          have hread : d.read path = .ok bytes := Disk.read_eq_ok.2 hnode
          have hthere : d.exists? path = .ok true := by rw [Disk.exists?, hnode]
          rw [existing, FileSystem.exists?_disk, hthere, Except.mapError, bind_eq_ok]
          simp only [Except.ok.injEq, exists_eq_left', if_true, bind_eq_ok,
            FileSystem.readText_disk, Disk.readText_eq_ok]
          simp [hread, pure, Except.pure, eq_comm]

theorem existing_other {paths : List String} {bytes : List UInt8} (h : Writes d d' paths)
    (hwritten : Written d' d'' path bytes) (hne : ∀ other ∈ paths, d.place path ≠ d.place other) :
    existing d' path = .ok old ↔ existing d path = .ok old := by
  have hdir := hwritten.not_directory
  have hlocate := hwritten.located
  rw [existing_eq_ok hlocate hdir]
  rw [h.locate_iff] at hlocate
  rw [h.directories] at hdir
  rw [existing_eq_ok hlocate hdir]
  rw [h.place_eq]
  simp only [ne_eq, h.file_other hne]

end Existing

theorem readText_artifact_other {d d' : Disk} {directory : FilePath} {name name' : String}
    {s t : List Char} (hname : name ∈ artifactNames) (hname' : name' ∈ artifactNames)
    (hne : name ≠ name') (hwrite : d.writeText (artifact directory name') t = .ok d') :
    d'.readText (artifact directory name) = .ok s ↔ d.readText (artifact directory name) = .ok s :=
  (written_of_write hwrite).readText_other fun heq =>
    hne (artifact_inj d directory hname hname' heq)

/-- If all is written beside the sources, the variables are added to the environment file and
their names are in the example. -/
theorem writeArtifacts_texts {mapping : Mapping} {directory : FilePath} {p p' : Progress Disk}
    (h : writeArtifacts mapping directory p = (p', none)) :
    ∃ old disk, existing p.disk (artifact directory Env.fileName) = .ok old ∧
      p.disk.writeText (artifact directory Env.fileName)
        (Env.append old (mapping.entries.map fun e => (e.name, e.value))) = .ok disk ∧
      p'.disk.readText (artifact directory Env.fileName) =
        .ok (Env.append old (mapping.entries.map fun e => (e.name, e.value))) ∧
      p'.disk.readText (artifact directory Env.exampleName) =
        .ok (Env.exampleFile mapping.names) := by
  obtain ⟨-, ⟨hnone, -⟩ | ⟨old, disk, hold, henv, ⟨hnone, -⟩ | ⟨disk', hexample, hcase⟩⟩⟩ :=
    writeArtifacts_cases h
  · exact absurd rfl hnone
  · exact absurd rfl hnone
  have hafter := (readText_artifact_other (by decide) (by decide) (by decide) hexample).2
    (written_of_write henv).readText_same
  have hexample' := (written_of_write hexample).readText_same
  refine ⟨old, disk, hold, henv, ?_⟩
  obtain rfl | ⟨s, disk'', hignore, rfl⟩ := hcase
  · exact ⟨hafter, hexample'⟩
  · exact ⟨(readText_artifact_other (by decide) (by decide) (by decide) hignore).2 hafter,
      (readText_artifact_other (by decide) (by decide) (by decide) hignore).2 hexample'⟩

/-- A run that went well did the turns of all files and wrote all that it writes beside them. -/
theorem run_succeeded {d : Disk} {directory : FilePath} {findings : List Finding}
    {outcome : Outcome} (hne : findings ≠ [])
    (hrun : (run d directory findings).2.2 = .ok outcome) (hsuccess : outcome.success = true) :
    ∃ p p', fixFiles (Mapping.ofFindings findings) (groupByFile (numbered findings))
        { disk := d } = (p, none) ∧
      writeArtifacts (Mapping.ofFindings findings) directory p = (p', none) ∧
      (run d directory findings).1 = p'.disk ∧
      outcome = succeeded (Mapping.ofFindings findings) (numbered findings) p' := by
  rw [run_eq hne] at hrun ⊢
  obtain ⟨hdisk, -, -, hnone, houtcome⟩ := answer_ok hrun
  replace hnone := hnone.1 hsuccess
  rw [hdisk, houtcome hnone]
  rw [ended] at hnone ⊢
  split at hnone
  · cases hnone
  · next p hfix =>
      exact ⟨p, (writeArtifacts (Mapping.ofFindings findings) directory p).1, hfix,
        Prod.ext rfl hnone, rfl, rfl⟩

end SecretScan.Remediation

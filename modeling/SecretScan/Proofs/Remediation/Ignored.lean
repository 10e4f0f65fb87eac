import SecretScan.Proofs.Gitignore
import SecretScan.Proofs.Remediation.Environment

/-!
# What is ignored after a call, and after later ones

In a directory that is there, a text is found and can be written where none is yet. So a call
leaves the completed text behind, and says that it changed something only if it did
(`completeGitignore_once`). A later call finds a complete text: it does nothing and says so, and
by induction this holds of any number of later calls (`completeTimes_complete`).
-/

namespace SecretScan.Remediation

open Files (Disk FileSystem)
open Files.Disk (written_of_write node_eq_ok locate_entry)
open Gitignore (completed completed? entryCount lastEnd rendered required)

/-- The disk after some calls, one after another, and which of them changed the list. -/
def completeTimes (directory : FilePath) : Nat → Disk → Except Failure (Disk × List Bool)
  | 0, d => .ok (d, [])
  | calls + 1, d => do
    let result ← completeGitignore d directory
    let (d', changes) ← completeTimes directory calls (result.getD d)
    return (d', result.isSome :: changes)

/-! ## One call -/

section Existing

variable {d : Disk} {path : String}

theorem existing_eq_some {s : List Char} :
    existing d path = .ok (some s) ↔ d.readText path = .ok s := by
  constructor
  · intro h
    obtain ⟨there, -, h⟩ := bind_eq_ok.1 h
    cases there with
    | false => cases h
    | true =>
        obtain ⟨t, ht, h⟩ := bind_eq_ok.1 h
        cases h
        exact ht
  · intro h
    obtain ⟨bytes, hread, -⟩ := Disk.readText_eq_ok.1 h
    have hthere : d.exists? path = .ok true := by rw [Disk.exists?, Disk.read_eq_ok.1 hread]
    rw [existing, FileSystem.exists?_disk, hthere]
    exact bind_eq_ok.2 ⟨true, rfl, bind_eq_ok.2 ⟨s, h, rfl⟩⟩

/-- Where a directory stands, there is no text. -/
theorem not_directory_of_existing {place : List String} (hlocate : d.locate path = .ok place)
    {old : Option (List Char)} (hold : existing d path = .ok old) :
    ¬ d.tree.HasDirectory place := by
  rintro ⟨entries, hget⟩
  have hnode : d.node path = .ok (.directory entries) := node_eq_ok.2 ⟨place, hlocate, hget⟩
  have hthere : d.exists? path = .ok true := by rw [Disk.exists?, hnode]
  have hread : d.readText path = .error (.system (.isDirectory path)) := by
    rw [Disk.readText, Disk.read, hnode]
    rfl
  rw [existing, FileSystem.exists?_disk, FileSystem.readText_disk, hthere, hread] at hold
  cases hold

theorem exists_writeText {place : List String} (hlocate : d.locate path = .ok place)
    (hnot : ¬ d.tree.HasDirectory place) (s : List Char) : ∃ d', d.writeText path s = .ok d' := by
  rw [Disk.writeText, Disk.write, hlocate]
  cases hget : d.tree.get? place with
  | none => simp [hget]
  | some n =>
      cases n with
      | file bytes => simp [hget]
      | directory entries => exact absurd ⟨entries, hget⟩ hnot

end Existing

variable {d : Disk} {directory : FilePath} {old : Option (List Char)}

/-- A call leaves the completed text behind, and says whether it had to write it. -/
theorem completeGitignore_once (hnormal : directory.Normal) {entries : List (String × Files.Node)}
    (hdirectory : d.node directory.toString = .ok (.directory entries))
    (hold : existing d (artifact directory Gitignore.fileName) = .ok old) :
    ∃ result, completeGitignore d directory = .ok result ∧
      (result.getD d).readText (artifact directory Gitignore.fileName) = .ok (completed old) ∧
      (result = none ↔ completed? old = none) := by
  cases hnew : completed? old with
  | none =>
      refine ⟨none, completeGitignore_complete hold hnew, ?_, by simp⟩
      rw [(Gitignore.completed_unchanged_iff old).2 hnew] at hold
      exact existing_eq_some.1 hold
  | some s =>
      obtain ⟨place, hlocate, hget⟩ := node_eq_ok.1 hdirectory
      have hplace : d.locate (artifact directory Gitignore.fileName) =
          .ok (place ++ [Gitignore.fileName]) :=
        locate_entry hnormal hlocate ⟨entries, hget⟩ (by decide) (by decide)
      obtain ⟨d', hwrite⟩ := exists_writeText hplace (not_directory_of_existing hplace hold) s
      refine ⟨some d', completeGitignore_written hold hnew hwrite, ?_, by simp⟩
      rw [Gitignore.completed_of_some hnew]
      exact (written_of_write hwrite).readText_same

/-! ## Later calls -/

theorem completeTimes_complete {s : List Char} (hs : completed? (some s) = none)
    (hread : d.readText (artifact directory Gitignore.fileName) = .ok s) (calls : Nat) :
    completeTimes directory calls d = .ok (d, List.replicate calls false) := by
  have hcall : completeGitignore d directory = .ok none :=
    completeGitignore_complete (existing_eq_some.2 hread) hs
  induction calls with
  | zero => rfl
  | succ calls ih =>
      rw [completeTimes, hcall]
      exact bind_eq_ok.2 ⟨none, rfl, bind_eq_ok.2 ⟨_, ih, rfl⟩⟩

/-- **The list of what is ignored is completed once.** A call in a directory that is there leaves
a text behind that has every required entry as a line. It is the old text and, behind a line feed
if the last line needs one, the entries that no line was, in their order. So an entry is a line
as often as before, but at least once. The call says that nothing changed exactly if the text is
the old one, and then it left the disk alone; all later calls do, and say so. -/
theorem completeGitignore_completes (hnormal : directory.Normal)
    {entries : List (String × Files.Node)}
    (hdirectory : d.node directory.toString = .ok (.directory entries))
    (hold : existing d (artifact directory Gitignore.fileName) = .ok old) :
    ∃ d' changed new,
      (∀ later, completeTimes directory (later + 1) d =
        .ok (d', changed :: List.replicate later false)) ∧
      d'.readText (artifact directory Gitignore.fileName) = .ok new ∧
      (changed = false ↔ old = some new) ∧ (changed = false → d' = d) ∧
      (∀ entry ∈ required, ∃ n, entry.toList ++ List.replicate n '\r' ∈ Text.lines new) ∧
      (∃ added, added = required.filter (fun entry => entryCount entry (old.getD []) = 0) ∧
        new = old.getD [] ++ lastEnd (old.getD []) added ++ rendered added) ∧
      ∀ entry ∈ required, entryCount entry new = max 1 (entryCount entry (old.getD [])) := by
  obtain ⟨result, hcall, hread, hnone⟩ := completeGitignore_once hnormal hdirectory hold
  have hcount : ∀ entry ∈ required,
      entryCount entry (completed old) = max 1 (entryCount entry (old.getD [])) :=
    fun entry h => Gitignore.entryCount_completed h old
  refine ⟨result.getD d, result.isSome, completed old, fun later => ?_, hread, ?_, ?_, ?_, ?_,
    hcount⟩
  · have hlater := completeTimes_complete (Gitignore.completed_complete old) hread later
    exact bind_eq_ok.2 ⟨result, hcall, bind_eq_ok.2 ⟨_, hlater, rfl⟩⟩
  · rw [Option.isSome_eq_false_iff, Option.isNone_iff_eq_none, hnone,
      Gitignore.completed_unchanged_iff]
  · intro hchanged
    rw [Option.isSome_eq_false_iff, Option.isNone_iff_eq_none] at hchanged
    rw [hchanged, Option.getD_none]
  · intro entry h
    refine (Gitignore.entryCount_pos_iff (Gitignore.isEntry_required entry h)).1 ?_
    rw [hcount entry h]
    omega
  · exact ⟨_, rfl, by rw [← Gitignore.missing_eq]; exact Gitignore.completed_eq old⟩

/-- Of the entries one is there, ended by a carriage return in a last line without a line feed. -/
theorem completeGitignore_completes_unended :
    let old := "dist\r\n.env.local\r".toList
    let d : Disk := { tree := .directory [(".gitignore", .file (Text.encodeUtf8 old))] }
    let directory := FilePath.ofString "."
    ∃ d', (∀ later, completeTimes directory (later + 1) d =
        .ok (d', true :: List.replicate later false)) ∧
      d'.readText ".gitignore" = .ok "dist\r\n.env.local\r\n.env\n.env.*.local\n".toList := by
  intro old d directory
  have hpath : artifact directory Gitignore.fileName = ".gitignore" := by decide +kernel
  have hread : d.readText (artifact directory Gitignore.fileName) = .ok old := by
    rw [hpath]
    decide +kernel
  have hdirectory : d.node directory.toString =
      .ok (.directory [(".gitignore", .file (Text.encodeUtf8 old))]) :=
    node_eq_ok.2 ⟨[], by decide +kernel, rfl⟩
  obtain ⟨d', changed, new, hcalls, hnew, hchanged, -, -, ⟨added, hadded, heq⟩, -⟩ :=
    completeGitignore_completes (FilePath.normal_ofString ".") hdirectory (existing_eq_some.2 hread)
  have hadded' : added = [".env", ".env.*.local"] := hadded.trans (by decide +kernel)
  have hnew' : new = "dist\r\n.env.local\r\n.env\n.env.*.local\n".toList := by
    rw [heq, hadded']
    decide +kernel
  rw [hpath, hnew'] at hnew
  obtain rfl : changed = true := by
    rw [← Bool.not_eq_false, hchanged, hnew']
    decide
  exact ⟨d', hcalls, hnew⟩

end SecretScan.Remediation

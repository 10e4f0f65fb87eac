import SecretScan.Proofs.Remediation.Steps
import SecretScan.Proofs.Rewrite.Soundness

/-!
# The journal of a run

A run has three accumulators beside the files, and it may stop at any file, even while it writes.
What ties them to the files is the list of all that was written, one act after another: a file is
overwritten right after it was copied to its backup, and only if its text changed because literals
of its findings were replaced. `Recorded` says that a progress is what such a list amounts to, and
`Reached` allows for one more act that failed midway. Every act keeps that up (`Recorded.act`), so
every turn does, and so does the end of a run, wherever it comes (`ended_reached`).
-/

namespace SecretScan.Remediation

open Files (Disk FileSystem LawfulFileSystem SystemError)
open Files.FileSystem (Touches)

/-- Something that a run writes. -/
inductive Act where
  /-- A file is copied to its backup. -/
  | backUp (file : String)
  /-- A file gets a new text, in which the literals of some findings are replaced. -/
  | rewrite (file : String) (text : List Char) (returned : List Nat)
  /-- A file beside the sources gets a text. -/
  | beside (name : String) (text : List Char)

namespace Act

/-- Where an act writes. -/
def path (directory : FilePath) : Act → String
  | backUp file => backupPath file
  | rewrite file _ _ => file
  | beside name _ => artifact directory name

/-- The source that an act overwrites. -/
@[simp]
def source? : Act → Option String
  | rewrite file _ _ => some file
  | _ => none

/-- The backup that an act makes. -/
@[simp]
def backup? : Act → Option String
  | backUp file => some (backupPath file)
  | _ => none

/-- The numbers of the findings whose literals an act replaces. -/
@[simp]
def returned : Act → List Nat
  | rewrite _ _ returned => returned
  | _ => []

end Act

section Progress

variable {σ : Type}

/-- The progress after an act. -/
def Progress.after (p : Progress σ) (act : Act) (disk : σ) : Progress σ where
  disk
  modified := p.modified ++ act.source?.toList
  backups := p.backups ++ act.backup?.toList
  resolved := p.resolved ++ act.returned

@[simp]
theorem Progress.after_backUp (p : Progress σ) (file : String) (disk : σ) :
    p.after (.backUp file) disk = p.backedUp file disk := by
  simp [after, backedUp]

@[simp]
theorem Progress.after_beside (p : Progress σ) (name : String) (s : List Char) (disk : σ) :
    p.after (.beside name s) disk = { p with disk } := by
  simp [after]

/-- A copy and a new text make the turn of a file. -/
@[simp]
theorem Progress.backedUp_rewrite (p : Progress σ) (file : String) (s : List Char)
    (resolved : List Nat) (disk disk' : σ) :
    (p.backedUp file disk).after (.rewrite file s resolved) disk' =
      p.rewritten file resolved disk' := by
  simp [after, backedUp, rewritten]

end Progress

variable {σ : Type} [FileSystem σ]

/-- The files after an act, and why it failed if it did. -/
def Act.perform (directory : FilePath) (d : σ) : Act → σ × Option SystemError
  | backUp file => FileSystem.copy d file (backupPath file)
  | rewrite file text _ => FileSystem.write d file (Text.encodeUtf8 text)
  | beside name text => FileSystem.write d (artifact directory name) (Text.encodeUtf8 text)

/-- The files after acts were done one after another, none of which failed. -/
inductive Performed (directory : FilePath) (d : σ) : List Act → σ → Prop
  | none : Performed directory d [] d
  | next {acts : List Act} {act : Act} {d' d'' : σ} : Performed directory d acts d' →
      act.perform directory d' = (d'', none) → Performed directory d (acts ++ [act]) d''

/-- What a run may do next. Only files with findings are backed up. A file is overwritten right
after its backup was made, by what its text becomes when its findings are rewritten; this is
another text, and the findings whose literals were replaced are findings in this file. -/
inductive Allowed (d : σ) (directory : FilePath) (findings : List (Nat × Finding))
    (before : List Act) : Act → Prop
  | backUp {file : String} (found : file ∈ findings.map (·.2.file)) :
      Allowed d directory findings before (.backUp file)
  | rewrite {file : String} {s text : List Char} {returned : List Nat} {earlier : List Act} {d' : σ}
      (last : before = earlier ++ [.backUp file]) (performed : Performed directory d earlier d')
      (read : FileSystem.readText d' file = .ok s)
      (rewritten : Rewrite.source (Env.Mapping.ofFindings (findings.map (·.2)))
        (FilePath.ofString file) s (findings.filter (·.2.file = file)) = .ok ⟨text, returned⟩)
      (changed : text ≠ s) (some_returned : returned ≠ [])
      (own : ∀ i ∈ returned, ∃ f, (i, f) ∈ findings ∧ f.file = file) :
      Allowed d directory findings before (.rewrite file text returned)
  | beside {name : String} {text : List Char} (known : name ∈ artifactNames) :
      Allowed d directory findings before (.beside name text)

/-- The files and the accumulators are what some acts amount to. -/
structure Recorded (d : σ) (directory : FilePath) (findings : List (Nat × Finding))
    (p : Progress σ) (acts : List Act) : Prop where
  performed : Performed directory d acts p.disk
  allowed : ∀ before act, before ++ [act] <+: acts → Allowed d directory findings before act
  modified : p.modified = acts.filterMap Act.source?
  backups : p.backups = acts.filterMap Act.backup?
  resolved : p.resolved = acts.flatMap Act.returned

/-- Some acts were done, and perhaps one more failed after them. -/
inductive Reached (d : σ) (directory : FilePath) (findings : List (Nat × Finding))
    (acts : List Act) : Option Act → Progress σ → Prop
  | done {p : Progress σ} : Recorded d directory findings p acts →
      Reached d directory findings acts none p
  | failed {p : Progress σ} {act : Act} {disk : σ} {e : SystemError} :
      Recorded d directory findings p acts → Allowed d directory findings acts act →
      act.perform directory p.disk = (disk, some e) →
      Reached d directory findings acts (some act) { p with disk }

variable {d : σ} {directory : FilePath} {findings : List (Nat × Finding)}

theorem Recorded.start (d : σ) (directory : FilePath) (findings : List (Nat × Finding)) :
    Recorded d directory findings { disk := d } [] where
  performed := .none
  allowed := by simp
  modified := rfl
  backups := rfl
  resolved := rfl

/-- What may be done act by act may be done with one more act at the end. -/
theorem allowed_concat {acts : List Act} {act : Act}
    (h : ∀ before act, before ++ [act] <+: acts → Allowed d directory findings before act)
    (hact : Allowed d directory findings acts act) {before : List Act} {act' : Act}
    (hbefore : before ++ [act'] <+: acts ++ [act]) :
    Allowed d directory findings before act' := by
  obtain heq | hbefore := List.prefix_concat_iff.1 hbefore
  · obtain ⟨rfl, hlast⟩ := List.append_inj' heq rfl
    rw [List.singleton_inj.1 hlast]
    exact hact
  · exact h before act' hbefore

theorem Recorded.act {p : Progress σ} {acts : List Act} (h : Recorded d directory findings p acts)
    {act : Act} (hallowed : Allowed d directory findings acts act) {disk : σ}
    (hact : act.perform directory p.disk = (disk, none)) :
    Recorded d directory findings (p.after act disk) (acts ++ [act]) where
  performed := h.performed.next hact
  allowed _ _ hbefore := allowed_concat h.allowed hallowed hbefore
  modified := by rw [Progress.after, List.filterMap_append, h.modified]; cases act <;> rfl
  backups := by rw [Progress.after, List.filterMap_append, h.backups]; cases act <;> rfl
  resolved := by rw [Progress.after, List.flatMap_append, h.resolved, List.flatMap_singleton]

/-! ## Turns -/

theorem literalsIn_of_none {mapping : Env.Mapping} {file : FilePath} {s : List Char}
    {group : List (Nat × Finding)} (h : (Rewrite.literalsIn mapping file s group).resolved = []) :
    Rewrite.literalsIn mapping file s group = ⟨[], s, []⟩ := by
  simp only [Rewrite.literalsIn, List.map_eq_nil_iff] at h
  simp only [Rewrite.literalsIn, h]
  rfl

/-- If a text changes, the literal of some finding was replaced. -/
theorem resolved_of_source {mapping : Env.Mapping} {file : FilePath} {s : List Char}
    {group : List (Nat × Finding)} {new : Rewrite.NewSource}
    (h : Rewrite.source mapping file s group = .ok new) (hne : new.text ≠ s) :
    new.resolved ≠ [] ∧ ∀ i ∈ new.resolved, ∃ f, (i, f) ∈ group := by
  obtain ⟨hresolved, -⟩ := Rewrite.source_shape h
  constructor
  · intro hnone
    have hsame := literalsIn_of_none (hresolved.symm.trans hnone)
    simp only [Rewrite.source, hsame] at h
    exact hne (congrArg Rewrite.NewSource.text (Except.ok.inj h)).symm
  · intro i hi
    obtain ⟨rs, -, hperm, -, hjustified⟩ := Rewrite.literalsIn_justified mapping file s group
    rw [hresolved, ← hperm.mem_iff] at hi
    obtain ⟨r, hr, rfl⟩ := List.mem_map.1 hi
    exact ⟨r.finding, (hjustified r hr).given⟩

theorem Recorded.fixFile {p p' : Progress σ} {acts : List Act}
    (h : Recorded d directory findings p acts) {group : String × List (Nat × Finding)}
    (hgroup : group ∈ groupByFile findings) {failure : Option Failure}
    (hfix : fixFile (Env.Mapping.ofFindings (findings.map (·.2))) p group.1 group.2 =
      (p', failure)) :
    ∃ acts' broken, Reached d directory findings acts' broken p' ∧
      (failure = none → broken = none) := by
  have hfound : group.1 ∈ findings.map (·.2.file) := by
    rw [← List.mem_eraseDups, ← files_groupByFile]
    exact List.mem_map_of_mem hgroup
  have hbackUp : Allowed d directory findings acts (.backUp group.1) := .backUp hfound
  obtain ⟨failure', heq, -⟩ | ⟨s, new, hread, hsource, hnew, ⟨disk, e, hcopy, heq⟩ |
    ⟨disk, hcopy, hcase⟩⟩ :=
    @fixFile_steps _ _ (Env.Mapping.ofFindings (findings.map (·.2))) p group.1 group.2
  · obtain ⟨rfl, -⟩ := Prod.mk.inj (heq.symm.trans hfix)
    exact ⟨acts, none, .done h, fun _ => rfl⟩
  · obtain ⟨rfl, rfl⟩ := Prod.mk.inj (heq.symm.trans hfix)
    exact ⟨acts, _, .failed h hbackUp hcopy, nofun⟩
  have hbacked : Recorded d directory findings (p.backedUp group.1 disk)
      (acts ++ [.backUp group.1]) := by
    simpa using h.act hbackUp hcopy
  obtain ⟨hreturned, hgiven⟩ := resolved_of_source hsource hnew
  have hown : ∀ i ∈ new.resolved, ∃ f, (i, f) ∈ findings ∧ f.file = group.1 := by
    intro i hi
    obtain ⟨f, hf⟩ := hgiven i hi
    rw [group_eq hgroup, List.mem_filter] at hf
    exact ⟨f, hf.1, of_decide_eq_true hf.2⟩
  rw [group_eq hgroup] at hsource
  have hallowed : Allowed d directory findings (acts ++ [.backUp group.1])
      (.rewrite group.1 new.text new.resolved) :=
    .rewrite rfl h.performed hread hsource hnew hreturned hown
  obtain ⟨disk', e, hwrite, heq⟩ | ⟨disk', hwrite, heq⟩ := hcase
  · obtain ⟨rfl, rfl⟩ := Prod.mk.inj (heq.symm.trans hfix)
    exact ⟨_, _, .failed hbacked hallowed hwrite, nofun⟩
  · obtain ⟨rfl, -⟩ := Prod.mk.inj (heq.symm.trans hfix)
    have hrewritten := hbacked.act hallowed hwrite
    rw [Progress.backedUp_rewrite] at hrewritten
    exact ⟨_, none, .done hrewritten, fun _ => rfl⟩

theorem Recorded.fixFiles {groups : List (String × List (Nat × Finding))} :
    ∀ {p p' : Progress σ} {acts : List Act} {failure : Option Failure},
      Recorded d directory findings p acts → (∀ group ∈ groups, group ∈ groupByFile findings) →
      fixFiles (Env.Mapping.ofFindings (findings.map (·.2))) groups p = (p', failure) →
      ∃ acts' broken, Reached d directory findings acts' broken p' ∧
        (failure = none → broken = none) := by
  induction groups with
  | nil =>
      intro p p' acts failure h _ hfix
      obtain ⟨rfl, -⟩ := Prod.mk.inj hfix
      exact ⟨acts, none, .done h, fun _ => rfl⟩
  | cons group groups ih =>
      intro p p' acts failure h hgroups hfix
      rw [List.forall_mem_cons] at hgroups
      obtain ⟨f, hfirst, rfl⟩ | ⟨p₁, hfirst, hrest⟩ := fixFiles_cons hfix
      · obtain ⟨acts₁, broken, hreached, -⟩ := h.fixFile hgroups.1 hfirst
        exact ⟨acts₁, broken, hreached, nofun⟩
      · obtain ⟨acts₁, broken, hreached, hnone⟩ := h.fixFile hgroups.1 hfirst
        obtain rfl := hnone rfl
        cases hreached with
        | done h₁ => exact ih h₁ hgroups.2 hrest

/-- One more file beside the sources is written, or writing it fails. -/
theorem Recorded.beside {p : Progress σ} {acts : List Act}
    (h : Recorded d directory findings p acts) {name : String} (hname : name ∈ artifactNames)
    {s : List Char} {disk : σ} {e : Option SystemError}
    (hwrite : FileSystem.write p.disk (artifact directory name) (Text.encodeUtf8 s) = (disk, e)) :
    ∃ acts' broken, Reached d directory findings acts' broken { p with disk } ∧
      (e = none → broken = none) := by
  have hallowed : Allowed d directory findings acts (.beside name s) := .beside hname
  cases e with
  | some e => exact ⟨acts, _, .failed h hallowed hwrite, nofun⟩
  | none =>
      have hacted := h.act hallowed hwrite
      rw [Progress.after_beside] at hacted
      exact ⟨_, none, .done hacted, fun _ => rfl⟩

theorem Recorded.writeArtifacts {p p' : Progress σ} {acts : List Act}
    (h : Recorded d directory findings p acts) {mapping : Env.Mapping} {failure : Option Failure}
    (hwrite : writeArtifacts mapping directory p = (p', failure)) :
    ∃ acts' broken, Reached d directory findings acts' broken p' ∧
      (failure = none → broken = none) := by
  obtain ⟨disk, rfl, ⟨hfailed, henv⟩ | ⟨disk₁, henv, hcase⟩⟩ := writeArtifacts_steps hwrite
  · obtain ⟨rfl, -⟩ | ⟨old, e, -, hwrite, -⟩ := writeEnv_steps henv
    · exact ⟨acts, none, .done h, fun _ => rfl⟩
    · obtain ⟨acts₁, broken, hreached, -⟩ := h.beside (by simp [artifactNames]) hwrite
      exact ⟨acts₁, broken, hreached, fun hnone => absurd hnone hfailed⟩
  obtain ⟨-, f, hf, -⟩ | ⟨old, e, -, hwrite, he⟩ := writeEnv_steps henv
  · cases hf
  obtain rfl := Option.map_eq_none_iff.1 he.symm
  obtain ⟨acts₁, broken, hreached, hnone⟩ := h.beside (by simp [artifactNames]) hwrite
  obtain rfl := hnone rfl
  obtain ⟨h₁⟩ := hreached
  obtain ⟨hfailed, hexample⟩ | ⟨disk₂, r, hexample, hignore, hr⟩ := hcase
  · obtain ⟨e, hwrite, -⟩ := FileSystem.writeText_eq.1 hexample
    obtain ⟨acts₂, broken, hreached, -⟩ := h₁.beside (by simp [artifactNames]) hwrite
    exact ⟨acts₂, broken, hreached, fun hnone => absurd hnone hfailed⟩
  obtain ⟨e, hwrite, he⟩ := FileSystem.writeText_eq.1 hexample
  obtain rfl := Option.map_eq_none_iff.1 he.symm
  obtain ⟨acts₂, broken, hreached, hnone⟩ := h₁.beside (by simp [artifactNames]) hwrite
  obtain rfl := hnone rfl
  obtain ⟨h₂⟩ := hreached
  obtain ⟨rfl, -⟩ | ⟨s, e, hwrite, rfl⟩ := writeGitignore_steps hignore
  · exact ⟨acts₂, none, .done h₂, fun _ => rfl⟩
  · obtain ⟨acts₃, broken, hreached, hnone⟩ := h₂.beside (by simp [artifactNames]) hwrite
    refine ⟨acts₃, broken, hreached, fun hfailure => hnone ?_⟩
    cases e with
    | none => rfl
    | some e =>
        have hf := (hr (.system e)).2 rfl
        rw [hfailure] at hf
        cases hf

/-! ## The end of a run -/

/-- Wherever a run ends, its files and its accumulators are what its acts amount to. -/
theorem ended_reached (d : σ) (directory : FilePath) (findings : List (Nat × Finding)) :
    ∃ acts broken, Reached d directory findings acts broken
        (ended (Env.Mapping.ofFindings (findings.map (·.2))) d directory findings).1 ∧
      ((ended (Env.Mapping.ofFindings (findings.map (·.2))) d directory findings).2 = none →
        broken = none) := by
  rw [ended]
  have hstart := Recorded.start d directory findings
  split
  · next p f hfix =>
      obtain ⟨acts, broken, h, -⟩ := hstart.fixFiles (fun _ h => h) hfix
      exact ⟨acts, broken, h, fun hnone => absurd hnone (Option.some_ne_none f)⟩
  · next p hfix =>
      obtain ⟨acts, broken, h, hnone⟩ := hstart.fixFiles (fun _ h => h) hfix
      obtain rfl := hnone rfl
      obtain ⟨h⟩ := h
      exact h.writeArtifacts (Prod.eta _).symm

/-! ## What a run leaves alone -/

theorem touches_perform (directory : FilePath) (act : Act) (d : σ) :
    Touches d (act.path directory) (act.perform directory d).1 := by
  cases act with
  | backUp file => exact .copy file
  | rewrite file text returned => exact .write _
  | beside name text => exact .write _

theorem Recorded.allowed_of_mem {p : Progress σ} {acts : List Act}
    (h : Recorded d directory findings p acts) {act : Act} (hact : act ∈ acts) :
    ∃ before, before <+: acts ∧ Allowed d directory findings before act := by
  obtain ⟨before, after, rfl⟩ := List.append_of_mem hact
  exact ⟨before, List.prefix_append _ _, h.allowed before act ⟨after, by simp⟩⟩

theorem Recorded.path_named {p : Progress σ} {acts : List Act}
    (h : Recorded d directory findings p acts) {path : String}
    (hpath : path ∈ acts.map (·.path directory)) :
    path ∈ p.modified ++ p.backups ++ artifactNames.map (artifact directory) := by
  obtain ⟨act, hact, rfl⟩ := List.mem_map.1 hpath
  obtain ⟨before, -, hallowed⟩ := h.allowed_of_mem hact
  rw [h.modified, h.backups, List.mem_append, List.mem_append, List.mem_filterMap,
    List.mem_filterMap]
  cases hallowed with
  | backUp => exact Or.inl (Or.inr ⟨_, hact, rfl⟩)
  | rewrite => exact Or.inl (Or.inl ⟨_, hact, rfl⟩)
  | beside hknown => exact Or.inr (List.mem_map.2 ⟨_, hknown, rfl⟩)

theorem Recorded.mem_backups {p : Progress σ} {acts : List Act}
    (h : Recorded d directory findings p acts) {file : String} (hfile : file ∈ p.modified) :
    backupPath file ∈ p.backups := by
  rw [h.modified, List.mem_filterMap] at hfile
  obtain ⟨act, hact, hsource⟩ := hfile
  obtain ⟨before, hbefore, hallowed⟩ := h.allowed_of_mem hact
  cases hallowed with
  | backUp => cases hsource
  | beside => cases hsource
  | rewrite hlast =>
      obtain rfl := Option.some.inj hsource
      rw [h.backups, List.mem_filterMap]
      exact ⟨.backUp _, hbefore.subset (by simp [hlast]), rfl⟩

section Lawful

variable [LawfulFileSystem σ]

/-- What is read at a path stays the same as long as nothing is written that it leads to. -/
theorem Performed.read_other {d' : σ} {acts : List Act} (h : Performed directory d acts d')
    {other : String} (hne : ∀ path ∈ acts.map (·.path directory),
      ¬ LawfulFileSystem.SameFile d other path) :
    (∀ a b, LawfulFileSystem.SameFile d' a b ↔ LawfulFileSystem.SameFile d a b) ∧
      ∀ bytes, FileSystem.read d' other = .ok bytes ↔ FileSystem.read d other = .ok bytes := by
  induction h with
  | none => exact ⟨fun _ _ => Iff.rfl, fun _ => Iff.rfl⟩
  | @next acts act d' d'' _ hact ih =>
      rw [List.map_append, List.forall_mem_append] at hne
      obtain ⟨hsame, hread⟩ := ih hne.1
      have htouches := touches_perform directory act d'
      rw [hact] at htouches
      have hact : ¬ LawfulFileSystem.SameFile d' other (act.path directory) := by
        rw [hsame]
        exact hne.2 _ (List.mem_singleton_self _)
      exact ⟨fun a b => (LawfulFileSystem.sameFile htouches a b).trans (hsame a b),
        fun bytes => (LawfulFileSystem.read_other htouches other hact bytes).trans (hread bytes)⟩

theorem Recorded.read_other {p : Progress σ} {acts : List Act}
    (h : Recorded d directory findings p acts) {other : String}
    (hne : ∀ path ∈ p.modified ++ p.backups ++ artifactNames.map (artifact directory),
      ¬ LawfulFileSystem.SameFile d other path) :
    (∀ a b, LawfulFileSystem.SameFile p.disk a b ↔ LawfulFileSystem.SameFile d a b) ∧
      ∀ bytes, FileSystem.read p.disk other = .ok bytes ↔ FileSystem.read d other = .ok bytes :=
  h.performed.read_other fun path hpath => hne path (h.path_named hpath)

/-- At a path that leads to nothing that was written, nor to what could not be, the same is read
as before. -/
theorem Reached.read_other {p : Progress σ} {acts : List Act} {broken : Option Act}
    (h : Reached d directory findings acts broken p) {other : String}
    (hne : ∀ path ∈ p.modified ++ p.backups ++ artifactNames.map (artifact directory) ++
      (broken.map (·.path directory)).toList, ¬ LawfulFileSystem.SameFile d other path)
    (bytes : List UInt8) :
    FileSystem.read p.disk other = .ok bytes ↔ FileSystem.read d other = .ok bytes := by
  rw [List.forall_mem_append] at hne
  cases h with
  | done h => exact (h.read_other hne.1).2 bytes
  | @failed p act disk e h _ hact =>
      obtain ⟨hsame, hread⟩ := h.read_other hne.1
      have htouches := touches_perform directory act p.disk
      rw [hact] at htouches
      have hact : ¬ LawfulFileSystem.SameFile p.disk other (act.path directory) := by
        rw [hsame]
        exact hne.2 _ (by simp)
      exact (LawfulFileSystem.read_other htouches other hact bytes).trans (hread bytes)

end Lawful

/-! ## On a disk -/

theorem perform_failed {d d' : Disk} {act : Act} {e : SystemError}
    (h : act.perform directory d = (d', some e)) : d' = d := by
  cases act <;> exact (FileSystem.orSame_eq_some.1 h).1

/-- A disk is as if nothing had been tried that failed. -/
theorem Reached.recorded {d : Disk} {p : Progress Disk} {acts : List Act} {broken : Option Act}
    (h : Reached d directory findings acts broken p) : Recorded d directory findings p acts := by
  cases h with
  | done h => exact h
  | failed h _ hact =>
      rw [perform_failed hact]
      exact h

end SecretScan.Remediation

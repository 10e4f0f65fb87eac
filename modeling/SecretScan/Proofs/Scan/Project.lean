import SecretScan.Proofs.Scan.Order
import SecretScan.Proofs.Scan.Walk
import SecretScan.Scan.Project

/-!
# The files of a scan

A scan of a file finds secrets in that file only. A scan of a directory finds them in files
that are below it, and spells each of them with the names on the way to it (`project_files`).
So different spellings are different places, and no spelling leads to the place of another one
to whose last name something was added, unless it is spelled that way (`project_apart`). Of what
cannot be read only two things are ever said (`project_problem`).
-/

namespace SecretScan.Files

/-- All files stand behind names that an entry of a directory can have. -/
def Disk.WellNamed (d : Disk) : Prop := ∀ file ∈ d.tree.files [], ∀ name ∈ file.1,
  FilePath.IsEntry name

instance (d : Disk) : Decidable d.WellNamed := inferInstanceAs (Decidable (∀ file ∈ _, _))

end SecretScan.Files

namespace SecretScan.Scan

open FilePath (IsEntry)
open Files (Disk Node)

variable {catalog : Catalog} {filter : SeverityFilter} {request : ScanRequest}

/-! ## The file of a finding -/

theorem file_of_content {file text : String} {f : Finding}
    (h : f ∈ content catalog filter file text) : f.file = file := by
  obtain hrule | hcheck := List.mem_append.1 ((content_perm catalog filter file text).subset h)
  · obtain ⟨k, line, -, rule, -, m, -, -, rfl⟩ := mem_ofRules.1 hrule
    rfl
  · obtain ⟨check, -, hhit⟩ := List.mem_flatMap.1 hcheck
    obtain ⟨hit, -, rfl⟩ := List.mem_map.1 hhit
    rfl

theorem file_of_ofText {path : FilePath} {s : List Char} {f : Finding}
    (h : f ∈ FileResult.flatten (ofText catalog filter path s).results) :
    f.file = path.toString := by
  cases hcontent : content catalog filter path.toString (String.ofList s) with
  | nil => rw [ofText, hcontent] at h; cases h
  | cons first findings =>
      rw [ofText, hcontent, FileResult.flatten, List.flatMap_singleton, ← hcontent] at h
      exact file_of_content h

theorem file_of_ofMet {m : Met} {f : Finding}
    (h : f ∈ FileResult.flatten (ofMet catalog request m).results) :
    ∃ path bytes, m = .file path bytes ∧ path.kind ∈ request.extensions ∧
      f.file = path.toString := by
  cases m with
  | closedDirectory spelling => cases h
  | file path bytes =>
      rw [ofMet] at h
      split at h
      · next hkind =>
          split at h
          · exact ⟨path, bytes, rfl, by simpa using hkind, file_of_ofText h⟩
          · cases h
      · cases h

theorem mem_flatten_join {outcomes : List Outcome} {f : Finding} :
    f ∈ FileResult.flatten (join outcomes).results ↔
      ∃ outcome ∈ outcomes, f ∈ FileResult.flatten outcome.results := by
  simp only [join, FileResult.flatten, List.mem_flatMap]
  grind

/-! ## The files of a scan -/

theorem toString_ne_empty {p : FilePath} (h : p.Normal) : p.toString ≠ "" := by
  intro heq
  have hp := FilePath.ofString_toString h
  rw [heq] at hp
  rw [← hp] at heq
  exact absurd heq (by decide)

/-- What is scanned: a directory that is there, or a single file. -/
theorem project_cases {d : Disk} {scan : Outcome} (h : project d catalog request = .ok scan) :
    let root := FilePath.ofString request.path
    (∃ place entries, d.locate root.toString = .ok place ∧
      d.tree.get? place = some (.directory entries) ∧
      scan = join ((walk request.exclude d.closed place root.toString (.directory entries)).map
        (ofMet catalog request))) ∨
    (∃ s, scan = ofText catalog request.severity root s) ∨ ∃ f, scan = ofUnreadable root f := by
  intro root
  rw [project] at h
  simp only [bind_eq_ok] at h
  obtain ⟨found, -, h⟩ := h
  split at h
  · cases h
  · split at h
    · next entries place hnode hlocate =>
        obtain ⟨place', hlocate', hget⟩ := Disk.node_eq_ok.1 hnode
        obtain rfl : place = place' := Except.ok.inj (hlocate.symm.trans hlocate')
        exact Or.inl ⟨place, entries, hlocate, hget, (Except.ok.inj h).symm⟩
    · split at h
      · next s _ => exact Or.inr (Or.inl ⟨s, (Except.ok.inj h).symm⟩)
      · next f _ => exact Or.inr (Or.inr ⟨f, (Except.ok.inj h).symm⟩)

/-- A scan finds something in the file that it is asked for, or in files that are below the
directory that it is asked for. -/
theorem project_files {d : Disk} (hnamed : d.WellNamed) {scan : Outcome}
    (h : project d catalog request = .ok scan) :
    let root := FilePath.ofString request.path
    (∀ f ∈ FileResult.flatten scan.results, f.file = root.toString) ∨
    ∀ f ∈ FileResult.flatten scan.results, ∃ names : List String, names ≠ [] ∧
      (∀ name ∈ names, IsEntry name) ∧ FilePath.kind ⟨root.root, root.names ++ names⟩ ∈
        request.extensions ∧ f.file = FilePath.toString ⟨root.root, root.names ++ names⟩ := by
  intro root
  have hnormal : root.Normal := FilePath.normal_ofString request.path
  obtain ⟨place, entries, -, hget, rfl⟩ | ⟨s, rfl⟩ | ⟨f, rfl⟩ := project_cases h
  · right
    intro f hf
    obtain ⟨_, houtcome, hf⟩ := mem_flatten_join.1 hf
    obtain ⟨m, hm, rfl⟩ := List.mem_map.1 houtcome
    obtain ⟨path, bytes, rfl, hkind, hfile⟩ := file_of_ofMet hf
    have hnamed' : ∀ file ∈ (Node.directory entries).files [], ∀ name ∈ file.1, IsEntry name := by
      intro file hmem name hname
      exact hnamed _ (Node.mem_files_of_get? hmem hget) name (List.mem_append_right place hname)
    obtain ⟨names, hmem, hne, hpath⟩ :=
      file_of_walk (.directory entries) (toString_ne_empty hnormal) hnamed' hm
    rw [FilePath.ofString_toString hnormal] at hpath
    subst hpath
    exact ⟨names, hne, hnamed' _ hmem, hkind, hfile⟩
  · exact Or.inl fun f hf => file_of_ofText hf
  · exact Or.inl fun f hf => absurd hf (by simp [ofUnreadable, FileResult.flatten])

/-! ## What cannot be read -/

theorem problem_of_ofText {path : FilePath} {s : List Char} {r : FileResult}
    (h : r ∈ (ofText catalog filter path s).results) : r.problem? = none := by
  rw [ofText] at h
  split at h
  · cases h
  · rw [List.mem_singleton.1 h]
    rfl

theorem problem_of_ofUnreadable {path : FilePath} {f : Failure} {r : FileResult}
    (h : r ∈ (ofUnreadable path f).results) : r.problem? = some fileProblem := by
  rw [List.mem_singleton.1 h]
  rfl

theorem problem_of_ofMet {m : Met} {r : FileResult} (h : r ∈ (ofMet catalog request m).results)
    {problem : String} (hproblem : r.problem? = some problem) :
    problem = fileProblem ∨ problem = directoryProblem := by
  cases m with
  | closedDirectory spelling =>
      obtain rfl := List.mem_singleton.1 h
      exact Or.inr (Option.some.inj hproblem).symm
  | file path bytes =>
      rw [ofMet] at h
      split at h
      · split at h
        · cases (problem_of_ofText h).symm.trans hproblem
        · exact Or.inl (Option.some.inj ((problem_of_ofUnreadable h).symm.trans hproblem)).symm
      · cases h

/-- A scan says one of two things of what cannot be read. -/
theorem project_problem {d : Disk} {scan : Outcome} (h : project d catalog request = .ok scan)
    {r : FileResult} (hr : r ∈ scan.results) {problem : String}
    (hproblem : r.problem? = some problem) :
    problem = fileProblem ∨ problem = directoryProblem := by
  obtain ⟨place, entries, -, -, rfl⟩ | ⟨s, rfl⟩ | ⟨f, rfl⟩ := project_cases h
  · obtain ⟨_, houtcome, hr⟩ := List.mem_flatMap.1 hr
    obtain ⟨m, -, rfl⟩ := List.mem_map.1 houtcome
    exact problem_of_ofMet hr hproblem
  · cases (problem_of_ofText hr).symm.trans hproblem
  · exact Or.inl (Option.some.inj ((problem_of_ofUnreadable hr).symm.trans hproblem)).symm

/-! ## Their places -/

/-- Where two findings are in different files, these are different places, and where something
was added to the path of one file, it does not lead to another one. -/
theorem project_apart {d : Disk} (hnamed : d.WellNamed) {scan : Outcome}
    (h : project d catalog request = .ok scan) {f g : Finding}
    (hf : f ∈ FileResult.flatten scan.results) (hg : g ∈ FileResult.flatten scan.results) :
    (d.place f.file = d.place g.file → f.file = g.file) ∧
    ∀ s, Disk.IsEnding s → d.place f.file = d.place (g.file ++ s) → f.file = g.file ++ s := by
  obtain hfile | hfiles := project_files hnamed h
  · rw [hfile f hf, hfile g hg]
    exact ⟨fun _ => rfl, fun s hs heq => absurd heq (d.place_ne_append hs _)⟩
  · obtain ⟨names, -, hnames, -, hfile⟩ := hfiles f hf
    obtain ⟨names', hne', hnames', -, hfile'⟩ := hfiles g hg
    have hroot := FilePath.normal_ofString request.path
    have hplace := d.place_below hroot hnames
    rw [hfile, hfile']
    constructor
    · intro heq
      rw [hplace, d.place_below hroot hnames'] at heq
      rw [List.append_cancel_left heq]
    · intro s hs heq
      obtain ⟨front, last, -, hends, hadded⟩ :=
        Disk.toString_append (FilePath.ofString request.path) hne' hnames' hs
      rw [hadded, hplace, d.place_below hroot hends] at heq
      rw [hadded, List.append_cancel_left heq]

end SecretScan.Scan

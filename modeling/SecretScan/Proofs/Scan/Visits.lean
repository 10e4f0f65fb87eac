import SecretScan.Proofs.Files.Listing
import SecretScan.Proofs.Scan.Project

/-!
# What a scan of a directory comes by

A scan of a directory comes by files and by directories that may not be looked into (`Visit`). To
which of them it comes can be said without the walk: no directory on the way has a name that is
excluded, and all of them may be looked into (`Comes`). The walk comes to each of these once, to the
files of a directory by their names and then to what is in its directories by theirs (`Before`,
`walk_visits`). So what a scan returns is settled by what stands where, not by how it is listed
(`project_visits`).
-/

namespace SecretScan.Scan

open FilePath (IsName IsEntry)
open Files (Disk Node)

/-- What a walk comes by: a file, or a directory that may not be looked into. -/
@[ext]
structure Visit where
  /-- The names of the directories on the way, seen from where the walk begins. -/
  directories : List String
  /-- The name of the file and its bytes; nothing if the visit ends at the last directory. -/
  file? : Option (String × List UInt8)

namespace Visit

/-- All names on the way. -/
def names (v : Visit) : List String := v.directories ++ (v.file?.map (·.1)).toList

/-- A visit, seen from the directory above. -/
def below (name : String) (v : Visit) : Visit := { v with directories := name :: v.directories }

/-- Files come by their names, and behind the files of a directory comes what is in its
directories, by their names: so the directories on the way are compared name by name, and what
goes on comes later. -/
def Before (v w : Visit) : Prop :=
  v.directories < w.directories ∨
    v.directories = w.directories ∧ ∃ f ∈ v.file?, ∃ g ∈ w.file?, f.1 < g.1

/-- How a visit shows, where the walk begins at a path. -/
def met (spelling : String) (v : Visit) : Met :=
  match v.file? with
  | some (name, bytes) =>
    let start := FilePath.ofString spelling
    .file ⟨start.root, start.names ++ v.directories ++ [name]⟩ bytes
  | none => .closedDirectory (v.directories.foldl spell spelling)

theorem Before.irrefl (v : Visit) : ¬ v.Before v := by
  rintro (hlt | ⟨-, f, hf, g, hg, hlt⟩)
  · exact List.lt_irrefl _ hlt
  · rw [Option.mem_unique hf hg] at hlt
    exact lt_irrefl _ hlt

theorem Before.asymm {v w : Visit} (h : v.Before w) : ¬ w.Before v := by
  intro h'
  rcases h with hlt | ⟨heq, f, hf, g, hg, hlt⟩
  · rcases h' with hlt' | ⟨heq', -⟩
    · exact List.lt_asymm hlt hlt'
    · exact List.lt_irrefl _ (heq' ▸ hlt)
  · rcases h' with hlt' | ⟨-, g', hg', f', hf', hlt'⟩
    · exact List.lt_irrefl _ (heq ▸ hlt')
    · rw [Option.mem_unique hf' hf, Option.mem_unique hg' hg] at hlt'
      exact lt_asymm hlt hlt'

theorem before_below {v w : Visit} (h : v.Before w) (name : String) :
    (v.below name).Before (w.below name) := by
  rcases h with hlt | ⟨heq, hfiles⟩
  · exact Or.inl (List.cons_lt_cons_iff.2 (Or.inr ⟨rfl, hlt⟩))
  · exact Or.inr ⟨congrArg (name :: ·) heq, hfiles⟩

theorem before_of_lt {name name' : String} (h : name < name') (v w : Visit) :
    (v.below name).Before (w.below name') :=
  Or.inl (List.cons_lt_cons_iff.2 (Or.inl h))

/-- The visits in a directory: the files, and then what is in each of the directories. -/
theorem before_listed {files : List (String × List UInt8)} {dirs : List (String × Node)}
    {inner : String × Node → List Visit} (hfiles : files.Pairwise fun a b => a.1 < b.1)
    (hdirs : dirs.Pairwise fun a b => a.1 < b.1)
    (hinner : ∀ entry ∈ dirs, (inner entry).Pairwise Before) :
    (files.map (fun file => (⟨[], some file⟩ : Visit)) ++
      dirs.flatMap fun entry => (inner entry).map (below entry.1)).Pairwise Before := by
  refine List.pairwise_append.2 ⟨?_, List.pairwise_flatMap.2 ⟨?_, ?_⟩, ?_⟩
  · exact List.pairwise_map.2 (hfiles.imp fun hlt => Or.inr ⟨rfl, _, rfl, _, rfl, hlt⟩)
  · intro entry hentry
    exact List.pairwise_map.2 ((hinner entry hentry).imp fun h => before_below h entry.1)
  · refine hdirs.imp fun {a b} hlt v hv w hw => ?_
    obtain ⟨v, -, rfl⟩ := List.mem_map.1 hv
    obtain ⟨w, -, rfl⟩ := List.mem_map.1 hw
    exact before_of_lt hlt v w
  · intro v hv w hw
    obtain ⟨file, -, rfl⟩ := List.mem_map.1 hv
    obtain ⟨entry, -, hw⟩ := List.mem_flatMap.1 hw
    obtain ⟨w, -, rfl⟩ := List.mem_map.1 hw
    exact Or.inl (List.nil_lt_cons _ _)

theorem met_below {spelling name : String} (hspelling : spelling ≠ "") (hname : IsName name)
    (v : Visit) : (v.below name).met spelling = v.met (spell spelling name) := by
  obtain ⟨directories, file?⟩ := v
  cases file? with
  | none => rfl
  | some file =>
      simp only [met, below, ofString_spell hspelling hname, List.append_assoc, List.cons_append,
        List.nil_append]

end Visit

/-! ## Where a walk comes -/

/-- A directory to which a walk gets: no name on the way is excluded, and it may look into all
directories in front. -/
structure Reaches (excluded : List String) (closed : List (List String)) (place : List String)
    (n : Node) (directories : List String) : Prop where
  stands : n.HasDirectory directories
  kept : ∀ name ∈ directories, name ∉ excluded
  listed : ∀ front rest, front ++ rest = directories → rest ≠ [] → place ++ front ∉ closed

/-- A visit of a walk: the walk gets to the directory, and looks into it to find the file, or may
not look into it. -/
def Comes (excluded : List String) (closed : List (List String)) (place : List String) (n : Node)
    (v : Visit) : Prop :=
  Reaches excluded closed place n v.directories ∧
    match v.file? with
    | some (name, bytes) => place ++ v.directories ∉ closed ∧
        n.get? (v.directories ++ [name]) = some (.file bytes)
    | none => place ++ v.directories ∈ closed

variable {excluded : List String} {closed : List (List String)} {place : List String}
  {spelling : String} {entries : List (String × Node)}

theorem reaches_nil : Reaches excluded closed place (.directory entries) [] := by
  refine ⟨⟨entries, rfl⟩, by simp, fun front rest h hne => ?_⟩
  exact absurd (List.append_eq_nil_iff.1 h).2 hne

theorem reaches_cons {name : String} {directories : List String} :
    Reaches excluded closed place (.directory entries) (name :: directories) ↔
      place ∉ closed ∧ name ∉ excluded ∧ ∃ n, entries.lookup name = some n ∧
        Reaches excluded closed (place ++ [name]) n directories := by
  constructor
  · rintro ⟨⟨inner, hstands⟩, hkept, hlisted⟩
    rw [List.forall_mem_cons] at hkept
    rw [Node.get?] at hstands
    split at hstands
    · next n hlookup =>
        refine ⟨by simpa using hlisted [] (name :: directories) rfl (List.cons_ne_nil _ _), hkept.1,
          n, hlookup, ⟨inner, hstands⟩, hkept.2, fun front rest h hne => ?_⟩
        simpa using hlisted (name :: front) rest (by rw [List.cons_append, h]) hne
    · cases hstands
  · rintro ⟨hopen, hname, n, hlookup, ⟨inner, hstands⟩, hkept, hlisted⟩
    refine ⟨⟨inner, by rw [Node.get?, hlookup]; exact hstands⟩,
      List.forall_mem_cons.2 ⟨hname, hkept⟩, fun front rest h hne => ?_⟩
    cases front with
    | nil => rwa [List.append_nil]
    | cons first front =>
        rw [List.cons_append, List.cons.injEq] at h
        rw [h.1]
        simpa using hlisted front rest h.2 hne

theorem comes_below {name : String} {v : Visit} :
    Comes excluded closed place (.directory entries) (v.below name) ↔
      place ∉ closed ∧ name ∉ excluded ∧ ∃ n, entries.lookup name = some n ∧
        Comes excluded closed (place ++ [name]) n v := by
  obtain ⟨directories, file?⟩ := v
  have hplace : place ++ name :: directories = place ++ [name] ++ directories := by simp
  simp only [Comes, Visit.below, reaches_cons, hplace, List.cons_append]
  constructor
  · rintro ⟨⟨hopen, hname, n, hlookup, hreaches⟩, hend⟩
    simp only [Node.get?, hlookup] at hend
    exact ⟨hopen, hname, n, hlookup, hreaches, hend⟩
  · rintro ⟨hopen, hname, n, hlookup, hreaches, hend⟩
    refine ⟨⟨hopen, hname, n, hlookup, hreaches⟩, ?_⟩
    simpa only [Node.get?, hlookup] using hend

theorem comes_closed (hclosed : place ∈ closed) {v : Visit} :
    Comes excluded closed place (.directory entries) v ↔ v = ⟨[], none⟩ := by
  obtain ⟨directories, file?⟩ := v
  cases directories with
  | nil => cases file? <;> simp [Comes, reaches_nil, hclosed]
  | cons name directories =>
      have hnot : ¬ Comes excluded closed place (.directory entries)
          (Visit.below name ⟨directories, file?⟩) := fun h => (comes_below.1 h).1 hclosed
      exact iff_of_false hnot (by simp)

theorem comes_open (hopen : place ∉ closed) (distinct : (entries.map (·.1)).Nodup) {v : Visit} :
    Comes excluded closed place (.directory entries) v ↔
      (∃ file ∈ filesIn entries, v = ⟨[], some file⟩) ∨
      ∃ entry ∈ entries, entry.1 ∉ excluded ∧
        ∃ w, Comes excluded closed (place ++ [entry.1]) entry.2 w ∧ v = w.below entry.1 := by
  have hbelow : ∀ {name : String} {w : Visit},
      Comes excluded closed place (.directory entries) (w.below name) ↔
        ∃ entry ∈ entries, entry.1 ∉ excluded ∧
          ∃ w', Comes excluded closed (place ++ [entry.1]) entry.2 w' ∧
            w.below name = w'.below entry.1 := by
    intro name w
    rw [comes_below]
    constructor
    · rintro ⟨-, hname, n, hlookup, hcomes⟩
      exact ⟨(name, n), (Node.lookup_eq_some distinct).1 hlookup, hname, w, hcomes, rfl⟩
    · rintro ⟨⟨name', n⟩, hentry, hname, w', hcomes, heq⟩
      simp only [Visit.below, Visit.mk.injEq, List.cons.injEq] at heq
      obtain ⟨⟨rfl, hdirectories⟩, hfile⟩ := heq
      obtain rfl := Visit.ext hdirectories hfile
      exact ⟨hopen, hname, n, (Node.lookup_eq_some distinct).2 hentry, hcomes⟩
  obtain ⟨directories, file?⟩ := v
  cases directories with
  | cons name directories =>
      refine (hbelow (w := ⟨directories, file?⟩)).trans (or_iff_right ?_).symm
      rintro ⟨file, -, heq⟩
      simp at heq
  | nil =>
      have hnot : ¬ ∃ entry ∈ entries, entry.1 ∉ excluded ∧ ∃ w, Comes excluded closed
          (place ++ [entry.1]) entry.2 w ∧ (⟨[], file?⟩ : Visit) = w.below entry.1 := by
        rintro ⟨entry, -, -, w, -, heq⟩
        simp [Visit.below] at heq
      rw [or_iff_left hnot]
      cases file? with
      | none => simp [Comes, hopen]
      | some file =>
          have hget : (Node.directory entries).get? [file.1] = some (.file file.2) ↔
              file ∈ filesIn entries := by
            rw [mem_filesIn, ← Node.lookup_eq_some distinct, Node.get?]
            cases entries.lookup file.1 <;> simp [Node.get?]
          simp [Comes, reaches_nil, hopen, hget]

/-- Trees that agree are walked alike. -/
theorem comes_congr {n n' : Node} (h : n.Agrees n') {v : Visit} :
    Comes excluded closed place n' v ↔ Comes excluded closed place n v := by
  have hreaches : Reaches excluded closed place n' v.directories ↔
      Reaches excluded closed place n v.directories :=
    ⟨fun hr => ⟨(h.directories _).1 hr.stands, hr.kept, hr.listed⟩,
      fun hr => ⟨(h.directories _).2 hr.stands, hr.kept, hr.listed⟩⟩
  simp only [Comes, hreaches, h.files]

theorem Comes.isEntry {n : Node} (hproper : n.Proper) {v : Visit}
    (h : Comes excluded closed place n v) : ∀ name ∈ v.names, IsEntry name := by
  obtain ⟨directories, file?⟩ := v
  cases file? with
  | none =>
      obtain ⟨⟨⟨inner, hstands⟩, -, -⟩, -⟩ := h
      simpa [Visit.names] using hproper.isEntry hstands
  | some file => exact hproper.isEntry h.2.2

/-- No two visits lead to one place. -/
theorem Comes.names_injective {n : Node} {v w : Visit} (hv : Comes excluded closed place n v)
    (hw : Comes excluded closed place n w) (h : v.names = w.names) : v = w := by
  -- a directory is no file
  have hapart : ∀ {directories : List String} {bytes : List UInt8},
      n.get? directories = some (.file bytes) → ¬ n.HasDirectory directories := by
    rintro directories bytes hfile ⟨inner, hdirectory⟩
    cases hfile.symm.trans hdirectory
  obtain ⟨directories, file?⟩ := v
  obtain ⟨directories', file?'⟩ := w
  cases file? with
  | none =>
      cases file?' with
      | none =>
          obtain rfl : directories = directories' := by simpa [Visit.names] using h
          rfl
      | some file' =>
          obtain rfl : directories = directories' ++ [file'.1] := by simpa [Visit.names] using h
          exact absurd hv.1.stands (hapart hw.2.2)
  | some file =>
      cases file?' with
      | none =>
          obtain rfl : directories ++ [file.1] = directories' := by simpa [Visit.names] using h
          exact absurd hw.1.stands (hapart hv.2.2)
      | some file' =>
          obtain ⟨name, bytes⟩ := file
          obtain ⟨name', bytes'⟩ := file'
          obtain ⟨rfl, hname⟩ := List.append_inj' h rfl
          obtain rfl : name = name' := List.singleton_inj.1 hname
          have hfile : some (Node.file bytes) = some (.file bytes') := hv.2.2.symm.trans hw.2.2
          cases hfile
          rfl

/-! ## The visits of a walk -/

theorem Comes.isDirectory {n : Node} {v : Visit} (h : Comes excluded closed place n v) :
    n.isDirectory = true := by
  obtain ⟨inner, hstands⟩ := h.1.stands
  cases n with
  | directory entries => rfl
  | file bytes => cases hdirectories : v.directories <;> simp [hdirectories, Node.get?] at hstands

theorem filesIn_names (entries : List (String × Node)) :
    ((filesIn entries).map (·.1)).Sublist (entries.map (·.1)) := by
  induction entries with
  | nil => exact List.Sublist.refl _
  | cons entry entries ih =>
      obtain ⟨name, n⟩ := entry
      cases n with
      | file bytes => exact ih.cons_cons name
      | directory inner => exact ih.cons name

/-- A walk comes to every visit once, and in their order. -/
theorem walk_visits {n : Node} (hproper : n.Proper) : ∀ {place : List String} {spelling : String},
    spelling ≠ "" → ∃ visits : List Visit,
      walk excluded closed place spelling n = visits.map (Visit.met spelling) ∧
      (∀ v, v ∈ visits ↔ Comes excluded closed place n v) ∧ visits.Pairwise Visit.Before := by
  induction hproper with
  | file bytes =>
      intro place spelling _
      refine ⟨[], by rw [walk]; rfl, fun v => iff_of_false List.not_mem_nil fun h => ?_,
        List.Pairwise.nil⟩
      cases h.isDirectory
  | @directory entries distinct named _ ih =>
      intro place spelling hspelling
      by_cases hclosed : place ∈ closed
      · refine ⟨[⟨[], none⟩], ?_, fun v => ?_, List.pairwise_singleton _ _⟩
        · rw [walk, if_pos (by simpa using hclosed)]
          rfl
        · rw [comes_closed hclosed, List.mem_singleton]
      choose! inner hwalk hmem hordered using fun entry (hentry : entry ∈ entries) =>
        @ih entry hentry (place ++ [entry.1]) (spell spelling entry.1)
          (spell_ne_empty hspelling entry.1)
      -- the directories to which the walk goes on, by their names
      let dirs := sortByName
        (entries.filter fun entry => entry.2.isDirectory && !excluded.contains entry.1)
      have hdirs : ∀ {entry}, entry ∈ dirs ↔
          entry ∈ entries ∧ entry.2.isDirectory = true ∧ entry.1 ∉ excluded := by
        intro entry
        rw [mem_sortByName, List.mem_filter]
        simp
      refine ⟨(sortByName (filesIn entries)).map (fun file => ⟨[], some file⟩) ++
        dirs.flatMap fun entry => (inner entry).map (Visit.below entry.1), ?_, fun v => ?_, ?_⟩
      · have hentries : sortByName (walkEntries excluded closed place spelling entries) =
            dirs.map fun entry => (entry.1,
              walk excluded closed (place ++ [entry.1]) (spell spelling entry.1) entry.2) := by
          rw [walkEntries_eq]
          exact sortByName_map _ _
        rw [walk, if_neg (by simpa using hclosed), hentries, List.map_append, List.map_map,
          List.flatMap_map, List.map_flatMap]
        refine congrArg₂ (· ++ ·) (List.map_congr_left fun file hfile => ?_)
          (List.flatMap_congr fun entry hentry => ?_)
        · have hname := named _ (mem_filesIn.1 (mem_sortByName.1 hfile))
          simp [Visit.met, FilePath.join_name _ hname.toIsName]
        · have hentry := (hdirs.1 hentry).1
          rw [hwalk entry hentry, List.map_map]
          refine List.map_congr_left fun v _ => ?_
          exact (Visit.met_below hspelling (named entry hentry).toIsName v).symm
      · rw [comes_open hclosed distinct, List.mem_append, List.mem_map, List.mem_flatMap]
        refine or_congr ?_ ?_
        · simp only [mem_sortByName, eq_comm]
        · constructor
          · rintro ⟨entry, hentry, hv⟩
            obtain ⟨w, hw, rfl⟩ := List.mem_map.1 hv
            obtain ⟨hentry, -, hname⟩ := hdirs.1 hentry
            exact ⟨entry, hentry, hname, w, (hmem entry hentry w).1 hw, rfl⟩
          · rintro ⟨entry, hentry, hname, w, hcomes, rfl⟩
            exact ⟨entry, hdirs.2 ⟨hentry, hcomes.isDirectory, hname⟩,
              List.mem_map.2 ⟨w, (hmem entry hentry w).2 hcomes, rfl⟩⟩
      · refine Visit.before_listed (sortByName_sorted (distinct.sublist (filesIn_names entries)))
          (sortByName_sorted (distinct.sublist (List.filter_sublist.map _))) fun entry hentry => ?_
        exact hordered entry (hdirs.1 hentry).1

/-- Nothing else is visited in the same order. -/
theorem visits_unique {visits visits' : List Visit} (h : visits.Pairwise Visit.Before)
    (h' : visits'.Pairwise Visit.Before) (hmem : ∀ v, v ∈ visits ↔ v ∈ visits') :
    visits = visits' := by
  have hnodup : ∀ {visits : List Visit}, visits.Pairwise Visit.Before → visits.Nodup := by
    intro visits h
    refine List.Pairwise.imp ?_ h
    rintro v _ hbefore rfl
    exact Visit.Before.irrefl v hbefore
  have hperm := (List.perm_ext_iff_of_nodup (hnodup h) (hnodup h')).2 hmem
  exact hperm.eq_of_pairwise (fun v w _ _ hvw hwv => absurd hwv hvw.asymm) h h'

/-- A walk meets what stands in a tree, however it is listed. -/
theorem walk_agrees {n n' : Node} (hproper : n.Proper) (hproper' : n'.Proper) (h : n.Agrees n')
    (hspelling : spelling ≠ "") :
    walk excluded closed place spelling n' = walk excluded closed place spelling n := by
  obtain ⟨visits, hwalk, hmem, hordered⟩ := walk_visits hproper hspelling
  obtain ⟨visits', hwalk', hmem', hordered'⟩ := walk_visits hproper' hspelling
  have heq : visits' = visits := visits_unique hordered' hordered fun v => by
    rw [hmem', hmem, comes_congr h]
  rw [hwalk', hwalk, heq]

/-! ## The results of a scan -/

/-- What is reported of a visit. -/
def resultOf (catalog : Catalog) (request : ScanRequest) (root : FilePath) (v : Visit) :
    Option FileResult :=
  match v.file? with
  | none =>
    some { file := v.directories.foldl spell root.toString, error := some directoryProblem }
  | some (name, bytes) =>
    let file := FilePath.toString ⟨root.root, root.names ++ v.directories ++ [name]⟩
    if Text.lowerText (FilePath.suffixOf name) ∈ request.extensions then
      match Text.decodeUtf8 bytes with
      | none => some { file, error := some fileProblem }
      | some s =>
        match content catalog request.severity file (String.ofList s) with
        | [] => none
        | findings => some { file, findings }
    else none

theorem results_of_met (catalog : Catalog) (request : ScanRequest) {root : FilePath}
    (hroot : root.Normal) (v : Visit) : (ofMet catalog request (v.met root.toString)).results =
      (resultOf catalog request root v).toList := by
  obtain ⟨directories, file?⟩ := v
  cases file? with
  | none => rfl
  | some file =>
      obtain ⟨name, bytes⟩ := file
      have hkind : FilePath.kind ⟨root.root, root.names ++ directories ++ [name]⟩ =
          Text.lowerText (FilePath.suffixOf name) := by
        rw [FilePath.kind, FilePath.suffix, FilePath.name, List.getLastD_concat]
      simp only [Visit.met, resultOf, ofMet, FilePath.ofString_toString hroot, hkind,
        List.contains_eq_mem, decide_eq_true_eq]
      split
      · cases Text.decodeUtf8 bytes with
        | none => rfl
        | some s =>
            simp only [ofText]
            generalize content _ _ _ _ = findings
            cases findings <;> rfl
      · rfl

theorem ofString_foldl_spell {directories : List String} (h : ∀ name ∈ directories, IsName name) :
    ∀ {spelling : String}, spelling ≠ "" → FilePath.ofString (directories.foldl spell spelling) =
      ⟨(FilePath.ofString spelling).root, (FilePath.ofString spelling).names ++ directories⟩ := by
  induction directories with
  | nil =>
      intro spelling _
      rw [List.append_nil]
      rfl
  | cons name directories ih =>
      intro spelling hspelling
      rw [List.forall_mem_cons] at h
      rw [List.foldl_cons, ih h.2 (spell_ne_empty hspelling name), ofString_spell hspelling h.1,
        List.append_assoc]
      rfl

/-- The path in a result shows which visit it is about. -/
theorem file_of_resultOf {catalog : Catalog} {request : ScanRequest} {root : FilePath}
    (hroot : root.Normal) {v : Visit} (hnames : ∀ name ∈ v.names, IsName name) {r : FileResult}
    (h : resultOf catalog request root v = some r) :
    FilePath.ofString r.file = ⟨root.root, root.names ++ v.names⟩ := by
  obtain ⟨directories, file?⟩ := v
  cases file? with
  | none =>
      simp only [Visit.names, Option.map_none, Option.toList_none, List.append_nil] at hnames ⊢
      obtain rfl := Option.some.inj h
      rw [ofString_foldl_spell hnames (toString_ne_empty hroot), FilePath.ofString_toString hroot]
  | some file =>
      have hfile : r.file =
          FilePath.toString ⟨root.root, root.names ++ directories ++ [file.1]⟩ := by
        simp only [resultOf] at h
        split at h
        · split at h
          · rw [← Option.some.inj h]
          · split at h
            · cases h
            · rw [← Option.some.inj h]
        · cases h
      rw [hfile, List.append_assoc, FilePath.ofString_toString]
      · rfl
      · refine ⟨hroot.root, fun name hname => ?_⟩
        exact (List.mem_append.1 hname).elim (hroot.names name) (hnames name)

theorem results_of_visits (catalog : Catalog) (request : ScanRequest) {root : FilePath}
    (hroot : root.Normal) (visits : List Visit) :
    (join ((visits.map (Visit.met root.toString)).map (ofMet catalog request))).results =
      visits.filterMap (resultOf catalog request root) := by
  rw [join, List.map_map, List.flatMap_map, List.filterMap_eq_flatMap_toList]
  exact List.flatMap_congr fun v _ => results_of_met catalog request hroot v

/-- No two results are about one path. -/
theorem files_nodup {n : Node} (hproper : n.Proper) {catalog : Catalog} {request : ScanRequest}
    {root : FilePath} (hroot : root.Normal) {visits : List Visit}
    (hmem : ∀ v ∈ visits, Comes excluded closed place n v)
    (hordered : visits.Pairwise Visit.Before) :
    ((visits.filterMap (resultOf catalog request root)).map (·.file)).Nodup := by
  refine List.pairwise_map.2 (List.pairwise_filterMap.2 ?_)
  refine hordered.imp_of_mem fun {v w} hv hw hbefore r hr r' hr' heq => ?_
  have hpath : ∀ {v r}, v ∈ visits → resultOf catalog request root v = some r →
      FilePath.ofString r.file = ⟨root.root, root.names ++ v.names⟩ := fun hv hr =>
    file_of_resultOf hroot (fun name hname => ((hmem _ hv).isEntry hproper name hname).toIsName) hr
  have hnames := (hpath hv hr).symm.trans ((congrArg FilePath.ofString heq).trans (hpath hw hr'))
  rw [FilePath.mk.injEq] at hnames
  obtain rfl := (hmem v hv).names_injective (hmem w hw) (List.append_cancel_left hnames.2)
  exact Visit.Before.irrefl v hbefore

theorem project_directory {d : Disk} {request : ScanRequest}
    (hplace : d.locate (FilePath.ofString request.path).toString = .ok place)
    (hdirectory : d.tree.get? place = some (.directory entries)) (catalog : Catalog) :
    project d catalog request = .ok (join ((walk request.exclude d.closed place
      (FilePath.ofString request.path).toString (.directory entries)).map
        (ofMet catalog request))) := by
  have hnode : d.node (FilePath.ofString request.path).toString = .ok (.directory entries) :=
    Disk.node_eq_ok.2 ⟨place, hplace, hdirectory⟩
  have hthere : d.exists? (FilePath.ofString request.path).toString = .ok true := by
    rw [Disk.exists?, hnode]
  rw [project, hthere, hnode, hplace]
  rfl

/-- What a scan of a directory returns: what is to be said of every visit, in the order of the
visits, and about no path twice. All of it stays the same if the directories are listed in another
order. -/
theorem project_visits {d : Disk} (hproper : d.tree.Proper) {request : ScanRequest}
    (hplace : d.locate (FilePath.ofString request.path).toString = .ok place)
    (hdirectory : d.tree.get? place = some (.directory entries)) (catalog : Catalog) :
    ∃ (visits : List Visit) (outcome : Outcome),
      project d catalog request = .ok outcome ∧
      (∀ v, v ∈ visits ↔ Comes request.exclude d.closed place (.directory entries) v) ∧
      visits.Pairwise Visit.Before ∧
      outcome.results =
        visits.filterMap (resultOf catalog request (FilePath.ofString request.path)) ∧
      (outcome.results.map (·.file)).Nodup ∧
      ∀ tree, d.tree.Relists tree → project { d with tree } catalog request = .ok outcome := by
  have hroot : (FilePath.ofString request.path).Normal := FilePath.normal_ofString request.path
  have hspelling := toString_ne_empty hroot
  have hproper' := hproper.get? hdirectory
  obtain ⟨visits, hwalk, hmem, hordered⟩ := walk_visits hproper' hspelling
  have hproject := project_directory hplace hdirectory catalog
  rw [hwalk] at hproject
  have hresults := results_of_visits catalog request hroot visits
  refine ⟨visits, _, hproject, hmem, hordered, hresults, ?_, ?_⟩
  · rw [hresults]
    exact files_nodup hproper' hroot (fun v => (hmem v).1) hordered
  · intro tree hrelists
    have hagrees := hrelists.agrees hproper
    have hplace' : Disk.locate { d with tree } (FilePath.ofString request.path).toString =
        .ok place := by
      refine (Disk.locate_congr ?_ ?_).2 hplace
      · rfl
      · exact hagrees.directories
    obtain ⟨entries', hdirectory'⟩ := (hagrees.directories place).2 ⟨entries, hdirectory⟩
    rw [project_directory hplace' hdirectory' catalog, ← hwalk]
    rw [walk_agrees hproper' ((hrelists.proper hproper).get? hdirectory')
      (hagrees.behind hdirectory hdirectory') hspelling]

/-- Files in two directories, one that is excluded and one that is closed, listed in two orders. -/
theorem project_visits_listed :
    let file (s : String) : Node := .file (Text.encodeUtf8 s.toList)
    let a := ("a.py", file "u = 'redis://h'")
    let b := ("b.PY", file "u = 'redis://h'\nv = 'redis://i'")
    let c := ("c.js", Node.file [0xFF])
    let e := ("e.txt", file "redis://h")
    let modules := ("node_modules", Node.directory [("f.js", file "redis://h")])
    let entries := [("src", .directory [b, a]), e, ("secret", .directory []), modules, c]
    let tree := Node.directory entries.reverse
    let d : Disk := { tree := .directory entries, closed := [["secret"]] }
    let request : ScanRequest :=
      { path := ".", extensions := [".js", ".py"], exclude := ["node_modules"], severity := .all
        severityName := "all" }
    d.tree.Proper ∧ d.locate (FilePath.ofString request.path).toString = .ok [] ∧
      d.tree.get? [] = some (.directory entries) ∧ d.tree.Relists tree ∧
      (∃ (visits : List Visit) (outcome : Outcome),
        project d Secrets.catalog request = .ok outcome ∧
        (∀ v, v ∈ visits ↔ Comes request.exclude d.closed [] (.directory entries) v) ∧
        visits.Pairwise Visit.Before ∧
        outcome.results =
          visits.filterMap (resultOf Secrets.catalog request (FilePath.ofString request.path)) ∧
        (outcome.results.map (·.file)).Nodup ∧
        project { d with tree } Secrets.catalog request = .ok outcome) ∧
      (project d Secrets.catalog request).toOption.map (fun scan => scan.results.map fun r =>
        (r.file, r.findings.map (·.matched), r.error)) =
          some [("c.js", [], some fileProblem), ("./secret", [], some directoryProblem),
            ("src/a.py", ["redis://h"], none), ("src/b.PY", ["redis://h", "redis://i"], none)] := by
  intro file a b c e modules entries tree d request
  have hproper : d.tree.Proper := by decide +kernel
  have hrelists : d.tree.Relists tree :=
    Node.relists_of_perm hproper (List.reverse_perm entries).symm
  have hplace : d.locate (FilePath.ofString request.path).toString = .ok [] := by decide +kernel
  obtain ⟨visits, outcome, hproject, hmem, hordered, hresults, hnodup, hlisted⟩ :=
    project_visits hproper hplace rfl Secrets.catalog
  exact ⟨hproper, hplace, rfl, hrelists, ⟨visits, outcome, hproject, hmem, hordered, hresults,
    hnodup, hlisted tree hrelists⟩, by decide +kernel⟩

end SecretScan.Scan

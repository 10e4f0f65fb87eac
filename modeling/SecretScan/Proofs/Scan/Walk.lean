import Mathlib.Data.List.Sort
import Mathlib.Data.String.Basic
import SecretScan.Proofs.Files.Paths
import SecretScan.Proofs.Files.Tree
import SecretScan.Scan.Walk

/-!
# What a walk meets

A walk meets the files among the entries of a directory and what walks from its directories
meet (`mem_walk_directory`). It spells every file with the names on the way to it behind the
path from which it started (`file_of_walk`).
-/

namespace SecretScan.Scan

open FilePath (IsName IsEntry)
open Files (Node)

theorem sortByName_eq (items : List (String × α)) :
    sortByName items = items.insertionSort fun a b => a.1 ≤ b.1 := by
  have hinsert : ∀ (item : String × α) (items : List (String × α)), insertByName item items =
      items.orderedInsert (fun a b => a.1 ≤ b.1) item := by
    intro item items
    induction items with
    | nil => rfl
    | cons other items ih => rw [insertByName, List.orderedInsert_cons, ih]
  induction items with
  | nil => rfl
  | cons item items ih => rw [sortByName, List.insertionSort_cons, ih, hinsert]

instance byName_total : Std.Total fun a b : String × α => a.1 ≤ b.1 :=
  ⟨fun a b => le_total a.1 b.1⟩

instance byName_trans : IsTrans (String × α) fun a b => a.1 ≤ b.1 := ⟨fun _ _ _ => le_trans⟩

theorem sortByName_perm (items : List (String × α)) : (sortByName items).Perm items := by
  rw [sortByName_eq]
  exact List.perm_insertionSort _ _

@[simp]
theorem mem_sortByName {x : String × α} {items : List (String × α)} :
    x ∈ sortByName items ↔ x ∈ items :=
  (sortByName_perm items).mem_iff

/-- Where the names differ, one comes strictly before the other. -/
theorem sortByName_sorted {items : List (String × α)} (h : (items.map (·.1)).Nodup) :
    (sortByName items).Pairwise fun a b => a.1 < b.1 := by
  have hle : (sortByName items).Pairwise fun a b => a.1 ≤ b.1 := by
    rw [sortByName_eq]
    exact List.pairwise_insertionSort _ _
  have hne := List.pairwise_map.1 (((sortByName_perm items).map (·.1)).nodup_iff.2 h)
  exact hle.imp₂ (fun a b hle hne => lt_of_le_of_ne hle hne) hne

/-- Only the names count. -/
theorem sortByName_map (g : String × α → β) (items : List (String × α)) :
    sortByName (items.map fun item => (item.1, g item)) =
      (sortByName items).map fun item => (item.1, g item) := by
  rw [sortByName_eq, sortByName_eq]
  exact (List.map_insertionSort (fun a b : String × α => a.1 ≤ b.1)
    (fun a b : String × β => a.1 ≤ b.1) _ items fun _ _ _ _ => Iff.rfl).symm

theorem mem_filesIn {name : String} {bytes : List UInt8} : ∀ {entries : List (String × Node)},
    (name, bytes) ∈ filesIn entries ↔ (name, .file bytes) ∈ entries := by
  intro entries
  induction entries with
  | nil => simp [filesIn]
  | cons entry entries ih =>
      obtain ⟨other, n⟩ := entry
      cases n <;> simp [filesIn, ih]

variable {excluded : List String} {closed : List (List String)} {place : List String}
  {spelling : String}

theorem walkEntries_eq (entries : List (String × Node)) :
    walkEntries excluded closed place spelling entries =
      (entries.filter fun (name, n) => n.isDirectory && !excluded.contains name).map
        fun (name, n) => (name, walk excluded closed (place ++ [name]) (spell spelling name) n) := by
  induction entries with
  | nil => rfl
  | cons entry entries ih =>
      obtain ⟨name, n⟩ := entry
      rw [walkEntries, List.filter_cons]
      split
      · rw [List.map_cons, ih]
      · exact ih

/-- What is met in a directory that may be looked into: its files, and what walks from its
directories meet. -/
theorem mem_walk_directory {entries : List (String × Node)} {m : Met} (hopen : place ∉ closed) :
    m ∈ walk excluded closed place spelling (.directory entries) ↔
      (∃ name bytes, (name, .file bytes) ∈ entries ∧
        m = .file ((FilePath.ofString spelling).join (FilePath.ofString name)) bytes) ∨
      ∃ name n, (name, n) ∈ entries ∧ n.isDirectory = true ∧ name ∉ excluded ∧
        m ∈ walk excluded closed (place ++ [name]) (spell spelling name) n := by
  rw [walk, if_neg (by simpa using hopen), List.mem_append, List.mem_map, List.mem_flatMap]
  refine or_congr ?_ ?_
  · constructor
    · rintro ⟨⟨name, bytes⟩, hmem, rfl⟩
      exact ⟨name, bytes, mem_filesIn.1 (mem_sortByName.1 hmem), rfl⟩
    · rintro ⟨name, bytes, hmem, rfl⟩
      exact ⟨(name, bytes), mem_sortByName.2 (mem_filesIn.2 hmem), rfl⟩
  · simp only [mem_sortByName, walkEntries_eq, List.mem_map, List.mem_filter, Bool.and_eq_true,
      Bool.not_eq_true', List.contains_eq_mem, decide_eq_false_iff_not]
    constructor
    · rintro ⟨-, ⟨⟨name, n⟩, ⟨hmem, hdir, hname⟩, rfl⟩, hm⟩
      exact ⟨name, n, hmem, hdir, hname, hm⟩
    · rintro ⟨name, n, hmem, hdir, hname, hm⟩
      exact ⟨_, ⟨(name, n), ⟨hmem, hdir, hname⟩, rfl⟩, hm⟩

theorem spell_ne_empty {directory : String} (h : directory ≠ "") (name : String) :
    spell directory name ≠ "" := by
  rw [spell]
  split
  · exact fun heq => h (String.append_eq_empty_iff.1 heq).1
  · exact fun heq => h (String.append_eq_empty_iff.1 (String.append_eq_empty_iff.1 heq).1).1

theorem ofString_spell {directory name : String} (hd : directory ≠ "") (hn : IsName name) :
    FilePath.ofString (spell directory name) =
      ⟨(FilePath.ofString directory).root, (FilePath.ofString directory).names ++ [name]⟩ := by
  rw [spell]
  split
  · next hlast =>
      obtain ⟨s, hs⟩ := List.getLast?_eq_some_iff.1 hlast
      have hhead : ∀ u, name.toList = '/' :: u → False := fun u heq =>
        hn.head [] u (by rw [List.append_nil, heq])
      rw [FilePath.ofString, FilePath.ofString, String.toList_append,
        FilePath.rootOf_append (Or.inr hhead), hs, List.append_assoc, List.singleton_append,
        FilePath.namesOf_slash, FilePath.namesOf_slash, FilePath.namesOf_name hn]
      simp only [show FilePath.namesOf [] = [] from rfl, List.append_nil]
  · next hlast =>
      have hcut : (directory ++ "/" ++ name).toList = directory.toList ++ '/' :: name.toList := by
        simp
      have hend : ∃ c, directory.toList.getLast? = some c ∧ c ≠ '/' := by
        cases hget : directory.toList.getLast? with
        | none => exact absurd (String.toList_eq_nil_iff.1 (List.getLast?_eq_none_iff.1 hget)) hd
        | some c => exact ⟨c, rfl, fun hc => hlast (by rw [hget, hc])⟩
      rw [FilePath.ofString, FilePath.ofString, hcut, FilePath.rootOf_append (Or.inl hend),
        FilePath.namesOf_slash, FilePath.namesOf_name hn]

/-- A walk spells a file with the names on the way to it behind the path from which it
started. -/
theorem file_of_walk {path : FilePath} {bytes : List UInt8} (n : Node) :
    ∀ {place : List String} {spelling : String}, spelling ≠ "" →
      (∀ file ∈ n.files [], ∀ name ∈ file.1, IsEntry name) →
      Met.file path bytes ∈ walk excluded closed place spelling n →
      ∃ names, (names, bytes) ∈ n.files [] ∧ names ≠ [] ∧
        path = ⟨(FilePath.ofString spelling).root, (FilePath.ofString spelling).names ++ names⟩ := by
  induction n using Node.entries_induction with
  | file bytes' =>
      intro place spelling _ _ h
      rw [walk] at h
      cases h
  | directory entries ih =>
      intro place spelling hspelling hnamed h
      by_cases hopen : place ∈ closed
      · rw [walk, if_pos (by simpa using hopen), List.mem_singleton] at h
        cases h
      obtain ⟨name, bytes', hmem, h⟩ | ⟨name, n, hmem, -, -, h⟩ := (mem_walk_directory hopen).1 h
      · cases h
        have hfile : ([name], bytes) ∈ (Node.directory entries).files [] :=
          Node.mem_files_directory.2 ⟨name, .file bytes, [], hmem, List.mem_singleton_self _, rfl⟩
        have hname : IsEntry name := hnamed _ hfile name (List.mem_singleton_self _)
        exact ⟨[name], hfile, List.cons_ne_nil _ _, FilePath.join_name _ hname.toIsName⟩
      · have hnamed' : ∀ file ∈ n.files [], ∀ name' ∈ name :: file.1, IsEntry name' := by
          intro file hfile
          exact hnamed (name :: file.1, file.2)
            (Node.mem_files_directory.2 ⟨name, n, file.1, hmem, hfile, rfl⟩)
        obtain ⟨names, hnames, -, hpath⟩ := ih name n hmem (spell_ne_empty hspelling name)
          (fun file hfile name' hname' => hnamed' file hfile name' (List.mem_cons_of_mem _ hname')) h
        have hname : IsEntry name := hnamed' _ hnames name List.mem_cons_self
        refine ⟨name :: names, Node.mem_files_directory.2 ⟨name, n, names, hmem, hnames, rfl⟩,
          List.cons_ne_nil _ _, ?_⟩
        rw [hpath, ofString_spell hspelling hname.toIsName, List.append_assoc]
        rfl

end SecretScan.Scan

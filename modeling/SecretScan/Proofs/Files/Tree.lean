import SecretScan.Files.Tree

/-!
# Files in a tree

The files in a directory are those in its entries (`mem_files_directory`), and what is found
behind some names has its files in the whole tree (`mem_files_of_get?`).
-/

namespace SecretScan.Files.Node

/-- What holds of files, and of directories if it holds of all their entries, holds of all
trees. -/
@[elab_as_elim]
theorem entries_induction {motive : Node → Prop} (file : ∀ bytes, motive (file bytes))
    (directory : ∀ entries, (∀ name n, (name, n) ∈ entries → motive n) →
      motive (directory entries)) : ∀ n, motive n
  | .file bytes => file bytes
  | .directory entries => directory entries fun name n hmem =>
      have hlt : sizeOf n < sizeOf (Node.directory entries) := by
        have hlt := List.sizeOf_lt_of_mem hmem
        rw [Prod.mk.sizeOf_spec] at hlt
        rw [Node.directory.sizeOf_spec]
        omega
      entries_induction file directory n
termination_by n => sizeOf n
decreasing_by exact hlt

@[simp]
theorem mem_filesOf {here rel : List String} {bytes : List UInt8} :
    ∀ {entries : List (String × Node)}, (rel, bytes) ∈ filesOf here entries ↔
      ∃ name n, (name, n) ∈ entries ∧ (rel, bytes) ∈ n.files (here ++ [name]) := by
  intro entries
  induction entries with
  | nil => simp [filesOf]
  | cons entry entries ih =>
      obtain ⟨name, n⟩ := entry
      rw [filesOf, List.mem_append, ih]
      constructor
      · rintro (h | ⟨name', n', hmem, h⟩)
        · exact ⟨name, n, List.mem_cons_self, h⟩
        · exact ⟨name', n', List.mem_cons_of_mem _ hmem, h⟩
      · rintro ⟨name', n', hmem, h⟩
        obtain heq | hmem := List.mem_cons.1 hmem
        · cases heq
          exact Or.inl h
        · exact Or.inr ⟨name', n', hmem, h⟩

/-- The names on the way to a directory stand before the names in it. -/
theorem mem_files_iff {bytes : List UInt8} (n : Node) : ∀ {here rel : List String},
    (rel, bytes) ∈ n.files here ↔ ∃ names, (names, bytes) ∈ n.files [] ∧ rel = here ++ names := by
  induction n using entries_induction with
  | file bytes' =>
      intro here rel
      simp only [files, List.mem_singleton, Prod.mk.injEq]
      constructor
      · rintro ⟨rfl, rfl⟩
        exact ⟨[], ⟨rfl, rfl⟩, (List.append_nil _).symm⟩
      · rintro ⟨names, ⟨rfl, rfl⟩, rfl⟩
        exact ⟨List.append_nil _, rfl⟩
  | directory entries ih =>
      intro here rel
      simp only [files, mem_filesOf]
      constructor
      · rintro ⟨name, n, hmem, h⟩
        obtain ⟨names, hnames, rfl⟩ := (ih name n hmem).1 h
        exact ⟨name :: names, ⟨name, n, hmem, (ih name n hmem).2 ⟨names, hnames, rfl⟩⟩, by simp⟩
      · rintro ⟨_, ⟨name, n, hmem, h⟩, rfl⟩
        obtain ⟨names, hnames, rfl⟩ := (ih name n hmem).1 h
        exact ⟨name, n, hmem, (ih name n hmem).2 ⟨names, hnames, by simp⟩⟩

theorem mem_files_directory {entries : List (String × Node)} {rel : List String}
    {bytes : List UInt8} : (rel, bytes) ∈ (directory entries).files [] ↔
      ∃ name n names, (name, n) ∈ entries ∧ (names, bytes) ∈ n.files [] ∧ rel = name :: names := by
  rw [files, mem_filesOf]
  constructor
  · rintro ⟨name, n, hmem, h⟩
    obtain ⟨names, hnames, rfl⟩ := (mem_files_iff n).1 h
    exact ⟨name, n, names, hmem, hnames, rfl⟩
  · rintro ⟨name, n, names, hmem, h, rfl⟩
    exact ⟨name, n, hmem, (mem_files_iff n).2 ⟨names, h, rfl⟩⟩

theorem mem_of_lookup {name : String} {n : Node} : ∀ {entries : List (String × Node)},
    entries.lookup name = some n → (name, n) ∈ entries := by
  intro entries
  induction entries with
  | nil => intro h; cases h
  | cons entry entries ih =>
      obtain ⟨other, m⟩ := entry
      intro h
      rw [List.lookup_cons] at h
      split at h
      · next heq =>
          cases h
          rw [eq_of_beq heq]
          exact List.mem_cons_self
      · exact List.mem_cons_of_mem _ (ih h)

theorem mem_files_of_get? {n : Node} {rel : List String} {bytes : List UInt8}
    (hrel : (rel, bytes) ∈ n.files []) : ∀ {place : List String} {tree : Node},
      tree.get? place = some n → (place ++ rel, bytes) ∈ tree.files [] := by
  intro place
  induction place with
  | nil =>
      intro tree h
      cases h
      exact hrel
  | cons name place ih =>
      intro tree h
      cases tree with
      | file _ => cases h
      | directory entries =>
          rw [get?] at h
          cases hlookup : entries.lookup name with
          | none => rw [hlookup] at h; cases h
          | some m =>
              rw [hlookup] at h
              exact mem_files_directory.2
                ⟨name, m, place ++ rel, mem_of_lookup hlookup, ih h, rfl⟩

end SecretScan.Files.Node

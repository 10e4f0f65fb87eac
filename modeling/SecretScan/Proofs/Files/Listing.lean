import SecretScan.Proofs.Files.Disk
import SecretScan.Proofs.Files.Tree
import SecretScan.Proofs.FilePath

/-!
# Listings

A directory lists each of its entries once and under a name that an entry can have (`Proper`), but
in no particular order. If all directories of a tree list their entries in another order
(`Relists`), the same files and directories stand behind the same names (`Relists.agrees`), and
paths lead where they led.
-/

namespace SecretScan.Files.Node

open FilePath (IsEntry)

/-- A tree whose directories list each entry once, under a name that an entry can have. -/
inductive Proper : Node → Prop
  | file (bytes : List UInt8) : Proper (file bytes)
  | directory {entries : List (String × Node)} (distinct : (entries.map (·.1)).Nodup)
      (named : ∀ entry ∈ entries, IsEntry entry.1) (below : ∀ entry ∈ entries, Proper entry.2) :
      Proper (directory entries)

mutual

/-- Whether a tree is proper. -/
def isProper : Node → Bool
  | file _ => true
  | directory entries => decide (entries.map (·.1)).Nodup && entriesProper entries

/-- Whether the entries of a directory have names that entries can have, and are proper. -/
def entriesProper : List (String × Node) → Bool
  | [] => true
  | (name, n) :: rest => decide (IsEntry name) && isProper n && entriesProper rest

end

theorem entriesProper_iff {entries : List (String × Node)} : entriesProper entries = true ↔
    ∀ entry ∈ entries, IsEntry entry.1 ∧ entry.2.isProper = true := by
  induction entries with
  | nil => simp [entriesProper]
  | cons entry entries ih =>
      obtain ⟨name, n⟩ := entry
      simp only [entriesProper, Bool.and_eq_true, decide_eq_true_eq, ih, List.forall_mem_cons]

theorem isProper_iff (n : Node) : n.isProper = true ↔ n.Proper := by
  induction n using entries_induction with
  | file bytes => exact ⟨fun _ => .file bytes, fun _ => rfl⟩
  | directory entries ih =>
      rw [isProper, Bool.and_eq_true, decide_eq_true_eq, entriesProper_iff]
      constructor
      · rintro ⟨distinct, hentries⟩
        exact .directory distinct (fun entry h => (hentries entry h).1) fun entry h =>
          (ih entry.1 entry.2 h).1 (hentries entry h).2
      · rintro (_ | ⟨distinct, named, below⟩)
        exact ⟨distinct, fun entry h => ⟨named entry h, (ih entry.1 entry.2 h).2 (below entry h)⟩⟩

instance (n : Node) : Decidable n.Proper := decidable_of_iff _ n.isProper_iff

/-- A tree and one whose directories list the same names, in any order, for nodes that are related
in the same way. -/
inductive Relists : Node → Node → Prop
  | file (bytes : List UInt8) : Relists (file bytes) (file bytes)
  | directory {entries entries' : List (String × Node)}
      (names : (entries.map (·.1)).Perm (entries'.map (·.1)))
      (below : ∀ name n n', (name, n) ∈ entries → (name, n') ∈ entries' → Relists n n') :
      Relists (directory entries) (directory entries')

/-- Trees with the same files and directories behind the same names. -/
structure Agrees (tree tree' : Node) : Prop where
  files : ∀ names bytes, tree'.get? names = some (file bytes) ↔ tree.get? names = some (file bytes)
  directories : ∀ names, tree'.HasDirectory names ↔ tree.HasDirectory names

variable {entries : List (String × Node)}

theorem lookup_eq_some (distinct : (entries.map (·.1)).Nodup) {name : String} {n : Node} :
    entries.lookup name = some n ↔ (name, n) ∈ entries := by
  refine ⟨mem_of_lookup, fun hmem => ?_⟩
  induction entries with
  | nil => cases hmem
  | cons entry entries ih =>
      rw [List.map_cons, List.nodup_cons] at distinct
      rw [List.lookup_cons]
      obtain rfl | hmem := List.mem_cons.1 hmem
      · simp
      · have hne : name ≠ entry.1 := fun heq =>
          distinct.1 (heq ▸ List.mem_map_of_mem (f := Prod.fst) hmem)
        rw [beq_eq_false_iff_ne.2 hne]
        exact ih distinct.2 hmem

theorem entry_unique (distinct : (entries.map (·.1)).Nodup) {name : String} {n n' : Node}
    (hn : (name, n) ∈ entries) (hn' : (name, n') ∈ entries) : n = n' := by
  rw [← lookup_eq_some distinct] at hn hn'
  exact Option.some.inj (hn.symm.trans hn')

theorem Proper.relists {tree : Node} (h : tree.Proper) : tree.Relists tree := by
  induction h with
  | file bytes => exact .file bytes
  | directory distinct named below ih =>
      refine .directory (List.Perm.refl _) fun name n n' hn hn' => ?_
      obtain rfl := entry_unique distinct hn hn'
      exact ih _ hn

/-- The same entries in another order. -/
theorem relists_of_perm {entries' : List (String × Node)} (h : (directory entries).Proper)
    (hperm : entries.Perm entries') : (directory entries).Relists (directory entries') := by
  cases h with
  | directory distinct named below =>
      refine .directory (hperm.map _) fun name n n' hn hn' => ?_
      obtain rfl := entry_unique distinct hn (hperm.mem_iff.2 hn')
      exact (below _ hn).relists

theorem Proper.get? {tree : Node} (h : tree.Proper) : ∀ {place : List String} {n : Node},
    tree.get? place = some n → n.Proper := by
  induction h with
  | file bytes =>
      intro place n hn
      cases place with
      | nil => cases hn; exact .file bytes
      | cons name place => cases hn
  | @directory entries distinct named below ih =>
      intro place n hn
      cases place with
      | nil => cases hn; exact .directory distinct named below
      | cons name place =>
          rw [Node.get?] at hn
          split at hn
          · next m hlookup => exact ih _ (mem_of_lookup hlookup) hn
          · cases hn

theorem Proper.isEntry {tree : Node} (h : tree.Proper) : ∀ {place : List String} {n : Node},
    tree.get? place = some n → ∀ name ∈ place, IsEntry name := by
  induction h with
  | file bytes =>
      intro place n hn
      cases place with
      | nil => simp
      | cons name place => cases hn
  | @directory entries distinct named below ih =>
      intro place n hn
      cases place with
      | nil => simp
      | cons name place =>
          rw [Node.get?] at hn
          split at hn
          · next m hlookup =>
              have hentry := mem_of_lookup hlookup
              exact List.forall_mem_cons.2 ⟨named _ hentry, ih _ hentry hn⟩
          · cases hn

theorem Relists.proper {tree tree' : Node} (h : tree.Relists tree') (hproper : tree.Proper) :
    tree'.Proper := by
  induction h with
  | file bytes => exact .file bytes
  | @directory entries entries' names below ih =>
      cases hproper with
      | directory distinct named proper =>
          -- every entry of the second directory has one of the first beside it
          have hentry : ∀ entry' ∈ entries', ∃ n, (entry'.1, n) ∈ entries := by
            intro entry' hentry'
            obtain ⟨entry, hentry, hname⟩ :=
              List.mem_map.1 (names.mem_iff.2 (List.mem_map_of_mem (f := Prod.fst) hentry'))
            exact ⟨entry.2, hname ▸ hentry⟩
          refine .directory (names.nodup_iff.1 distinct) ?_ ?_
          · intro entry' hentry'
            obtain ⟨n, hn⟩ := hentry entry' hentry'
            exact named (entry'.1, n) hn
          · intro entry' hentry'
            obtain ⟨n, hn⟩ := hentry entry' hentry'
            exact ih _ n entry'.2 hn hentry' (proper _ hn)

theorem Agrees.behind {tree tree' : Node} (h : tree.Agrees tree') {place : List String}
    {n n' : Node} (hn : tree.get? place = some n) (hn' : tree'.get? place = some n') :
    n.Agrees n' := by
  have hget : ∀ names, n.get? names = tree.get? (place ++ names) := fun names => by
    rw [get?_append, hn]; rfl
  have hget' : ∀ names, n'.get? names = tree'.get? (place ++ names) := fun names => by
    rw [get?_append, hn']; rfl
  refine ⟨fun names bytes => ?_, fun names => ?_⟩
  · rw [hget, hget']
    exact h.files _ bytes
  · rw [HasDirectory, HasDirectory, hget, hget']
    exact h.directories _

/-- Directories agree if what they list under each name agrees. -/
theorem agrees_of_lookup {entries entries' : List (String × Node)}
    (h : ∀ name, (entries.lookup name = none ∧ entries'.lookup name = none) ∨
      ∃ n n', entries.lookup name = some n ∧ entries'.lookup name = some n' ∧ n.Agrees n') :
    (directory entries).Agrees (directory entries') := by
  have hbehind : ∀ name place, (∀ bytes,
      (directory entries').get? (name :: place) = some (file bytes) ↔
        (directory entries).get? (name :: place) = some (file bytes)) ∧
      ((directory entries').HasDirectory (name :: place) ↔
        (directory entries).HasDirectory (name :: place)) := by
    intro name place
    simp only [HasDirectory, get?]
    obtain ⟨hnone, hnone'⟩ | ⟨n, n', hn, hn', hagrees⟩ := h name
    · rw [hnone, hnone']
      exact ⟨fun _ => Iff.rfl, Iff.rfl⟩
    · rw [hn, hn']
      exact ⟨hagrees.files place, hagrees.directories place⟩
  refine ⟨fun place bytes => ?_, fun place => ?_⟩
  · cases place with
    | nil => simp [get?]
    | cons name place => exact (hbehind name place).1 bytes
  · cases place with
    | nil => exact ⟨fun _ => ⟨entries, rfl⟩, fun _ => ⟨entries', rfl⟩⟩
    | cons name place => exact (hbehind name place).2

/-- The order of a listing does not count for what stands behind its names. -/
theorem Relists.agrees {tree tree' : Node} (h : tree.Relists tree') (hproper : tree.Proper) :
    tree.Agrees tree' := by
  have hproper' := h.proper hproper
  induction h with
  | file bytes => exact ⟨fun _ _ => Iff.rfl, fun _ => Iff.rfl⟩
  | @directory entries entries' names below ih =>
      cases hproper with
      | directory distinct named proper =>
      cases hproper' with
      | directory distinct' named' proper' =>
      refine agrees_of_lookup fun name => ?_
      by_cases hname : name ∈ entries.map (·.1)
      · obtain ⟨⟨_, n⟩, hn, rfl⟩ := List.mem_map.1 hname
        obtain ⟨⟨_, n'⟩, hn', heq⟩ := List.mem_map.1 (names.mem_iff.1 hname)
        simp only at heq
        subst heq
        exact Or.inr ⟨n, n', (lookup_eq_some distinct).2 hn, (lookup_eq_some distinct').2 hn',
          ih _ n n' hn hn' (proper _ hn) (proper' _ hn')⟩
      · refine Or.inl ⟨?_, ?_⟩ <;> refine Option.eq_none_iff_forall_ne_some.2 fun n hn => hname ?_
        · exact List.mem_map_of_mem (f := Prod.fst) (mem_of_lookup hn)
        · exact names.mem_iff.2 (List.mem_map_of_mem (f := Prod.fst) (mem_of_lookup hn))

end SecretScan.Files.Node

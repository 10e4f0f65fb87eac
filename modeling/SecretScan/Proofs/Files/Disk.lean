import SecretScan.Files.Text
import SecretScan.Proofs.Text.Search
import SecretScan.Proofs.Text.Utf8

/-!
# What a write does to a disk

Where a path leads is settled by its names alone (`resolve`); the tree only decides whether
it leads there at all, and for that the directories on the way count. A write puts a file
into a directory that is there, at a place where no directory stands (`put_file`). So all
directories stay, every path leads where it led before, and at any other place the same is
read as before (`Written.read_other`).
-/

namespace SecretScan

theorem bind_eq_ok {ε α β : Type} {x : Except ε α} {f : α → Except ε β} {b : β} :
    x >>= f = .ok b ↔ ∃ a, x = .ok a ∧ f a = .ok b := by
  cases x <;> simp [bind, Except.bind]

theorem bind_eq_error {ε α β : Type} {x : Except ε α} {f : α → Except ε β} {e : ε} :
    x >>= f = .error e ↔ x = .error e ∨ ∃ a, x = .ok a ∧ f a = .error e := by
  cases x <;> simp [bind, Except.bind]

/-- What a computation gives is known by carrying it out. -/
instance decidableExistsOk {ε α : Type} {x : Except ε α} {p : α → Prop} [DecidablePred p] :
    Decidable (∃ a, x = .ok a ∧ p a) :=
  match x with
  | .error _ => .isFalse nofun
  | .ok a =>
    decidable_of_iff (p a) ⟨fun h => ⟨a, rfl, h⟩, fun ⟨_, hx, h⟩ => Except.ok.inj hx ▸ h⟩

@[simp]
theorem mapError_eq_ok {ε ε' α : Type} {g : ε → ε'} {x : Except ε α} {a : α} :
    x.mapError g = .ok a ↔ x = .ok a := by
  cases x with
  | error e => exact ⟨nofun, nofun⟩
  | ok b => exact ⟨fun h => congrArg _ (Except.ok.inj h), fun h => congrArg _ (Except.ok.inj h)⟩

end SecretScan

namespace SecretScan.Files

namespace Node

/-- A directory stands behind some names. -/
def HasDirectory (tree : Node) (place : List String) : Prop :=
  ∃ entries, tree.get? place = some (directory entries)

theorem get?_append (names names' : List String) : ∀ n : Node,
    n.get? (names ++ names') = (n.get? names).bind (get? names') := by
  induction names with
  | nil => intro n; rfl
  | cons name names ih =>
      intro n
      cases n with
      | file bytes => rfl
      | directory entries =>
          rw [List.cons_append, get?, get?]
          cases entries.lookup name with
          | none => rfl
          | some n => exact ih n

theorem HasDirectory.parent {tree : Node} {place : List String} {name : String}
    (h : tree.HasDirectory (place ++ [name])) : tree.HasDirectory place := by
  obtain ⟨entries, h⟩ := h
  rw [get?_append] at h
  obtain ⟨n, hn, h⟩ := Option.bind_eq_some_iff.1 h
  cases n with
  | file bytes => cases h
  | directory entries => exact ⟨entries, hn⟩

@[simp]
theorem lookup_setEntry (name : String) (n : Node) (other : String) :
    ∀ entries : List (String × Node), (setEntry name n entries).lookup other =
      if other = name then some n else entries.lookup other := by
  intro entries
  induction entries with
  | nil =>
      rw [setEntry, List.lookup_cons]
      by_cases hother : other = name
      · simp [hother]
      · simp [hother, beq_eq_false_iff_ne.2 hother]
  | cons entry entries ih =>
      obtain ⟨first, m⟩ := entry
      rw [setEntry]
      split
      · next heq =>
          rw [List.lookup_cons, List.lookup_cons, heq]
          by_cases hother : other = name
          · simp [hother]
          · simp [hother, beq_eq_false_iff_ne.2 hother]
      · next hne =>
          rw [List.lookup_cons, List.lookup_cons, ih]
          by_cases hother : other = first
          · simp [hother, hne]
          · simp [beq_eq_false_iff_ne.2 hother]

theorem get?_setEntry (name : String) (n : Node) (entries : List (String × Node)) (other : String)
    (rest : List String) : get? (other :: rest) (directory (setEntry name n entries)) =
      if other = name then n.get? rest else get? (other :: rest) (directory entries) := by
  simp only [get?, lookup_setEntry]
  by_cases hother : other = name
  · rw [if_pos hother, if_pos hother]
  · rw [if_neg hother, if_neg hother]

/-- A tree with a file put at a place: nothing changes but what is read there. -/
structure FileAt (tree tree' : Node) (place : List String) (bytes : List UInt8) : Prop where
  file : tree'.get? place = some (file bytes)
  others : ∀ other bytes', other ≠ place →
    (tree'.get? other = some (Node.file bytes') ↔ tree.get? other = some (Node.file bytes'))
  directories : ∀ other, tree'.HasDirectory other ↔ tree.HasDirectory other

/-- A file among the entries of a directory, where no directory stands. -/
theorem fileAt_entry {name : String} {entries : List (String × Node)}
    (hnot : ¬ (directory entries).HasDirectory [name]) (bytes : List UInt8) :
    FileAt (directory entries) (directory (setEntry name (file bytes) entries)) [name] bytes := by
  -- behind the name there was nothing, and there is nothing behind a file
  have hbehind : ∀ first rest, get? (name :: first :: rest) (directory entries) = none := by
    intro first rest
    rw [get?]
    cases hlookup : entries.lookup name with
    | none => rfl
    | some n =>
        cases n with
        | file _ => rfl
        | directory inner => exact absurd ⟨inner, by rw [get?, hlookup]; rfl⟩ hnot
  refine ⟨by rw [get?_setEntry, if_pos rfl]; rfl, ?_, ?_⟩
  · intro other bytes' hne
    cases other with
    | nil => simp [get?]
    | cons other rest =>
        rw [get?_setEntry]
        split
        · next heq =>
            subst heq
            cases rest with
            | nil => exact absurd rfl hne
            | cons first rest => rw [hbehind, get?]
        · exact Iff.rfl
  · intro other
    cases other with
    | nil => exact ⟨fun _ => ⟨entries, rfl⟩, fun _ => ⟨_, rfl⟩⟩
    | cons other rest =>
        rw [HasDirectory, HasDirectory, get?_setEntry]
        split
        · next heq =>
            subst heq
            cases rest with
            | nil =>
                refine ⟨?_, fun h => absurd h hnot⟩
                rintro ⟨inner, h⟩
                cases h
            | cons first rest => rw [hbehind, get?]
        · exact Iff.rfl

/-- A file put behind an entry of a directory. -/
theorem FileAt.behind {first : String} {entries : List (String × Node)} {n n' : Node}
    (hlookup : entries.lookup first = some n) {place : List String} {bytes : List UInt8}
    (h : FileAt n n' place bytes) :
    FileAt (directory entries) (directory (setEntry first n' entries)) (first :: place) bytes := by
  have hget : ∀ names, get? (first :: names) (directory entries) = n.get? names := by
    intro names
    rw [get?, hlookup]
  refine ⟨by rw [get?_setEntry, if_pos rfl]; exact h.file, ?_, ?_⟩
  · intro other bytes' hne
    cases other with
    | nil => simp [get?]
    | cons other names =>
        rw [get?_setEntry]
        split
        · next heq =>
            subst heq
            rw [hget]
            exact h.others names bytes' fun heq => hne (by rw [heq])
        · exact Iff.rfl
  · intro other
    cases other with
    | nil => exact ⟨fun _ => ⟨entries, rfl⟩, fun _ => ⟨_, rfl⟩⟩
    | cons other names =>
        rw [HasDirectory, HasDirectory, get?_setEntry]
        split
        · next heq =>
            subst heq
            rw [hget]
            exact h.directories names
        · exact Iff.rfl

/-- A file is put into a directory, where no directory stands. -/
theorem put_file {name : String} (bytes : List UInt8) : ∀ {parent : List String} {tree : Node},
    tree.HasDirectory parent → ¬ tree.HasDirectory (parent ++ [name]) →
      FileAt tree (tree.put (parent ++ [name]) (file bytes)) (parent ++ [name]) bytes := by
  intro parent
  induction parent with
  | nil =>
      rintro tree ⟨entries, h⟩ hnot
      obtain rfl : tree = directory entries := Option.some.inj h
      exact fileAt_entry hnot bytes
  | cons first parent ih =>
      rintro tree ⟨entries, h⟩ hnot
      cases tree with
      | file _ => cases h
      | directory outer =>
          rw [get?] at h
          cases hlookup : outer.lookup first with
          | none => rw [hlookup] at h; cases h
          | some n =>
              rw [hlookup] at h
              have hnot' : ¬ n.HasDirectory (parent ++ [name]) := by
                rintro ⟨inner, hinner⟩
                exact hnot ⟨inner, by rw [List.cons_append, get?, hlookup]; exact hinner⟩
              have hin := (ih ⟨entries, h⟩ hnot').behind hlookup
              rwa [List.cons_append, put, hlookup, Option.getD_some]

end Node

namespace Disk

open Node (HasDirectory FileAt)

/-! ## Where paths lead -/

/-- The place to which a name leads from another one. -/
def step (place : List String) (name : String) : List String :=
  if name = "" || name = "." then place
  else if name = ".." then place.dropLast
  else place ++ [name]

/-- The place to which names lead. -/
def resolve (place names : List String) : List String := names.foldl step place

theorem follow_cons {tree : Node} {place rest : List String} {name : String}
    {place' : List String} :
    follow tree place (name :: rest) = .ok place' ↔ tree.HasDirectory place ∧
      (Text.encodeUtf8 name.toList).length ≤ nameLimit ∧
        follow tree (step place name) rest = .ok place' := by
  have hshort : ∀ name ∈ ["", ".", ".."], (Text.encodeUtf8 name.toList).length ≤ nameLimit := by
    decide
  rw [follow]
  cases hget : tree.get? place with
  | none => simp [HasDirectory, hget]
  | some n =>
      cases n with
      | file bytes => simp [HasDirectory, hget]
      | directory entries =>
          have hdir : tree.HasDirectory place := ⟨entries, hget⟩
          simp only [step, hdir, true_and]
          split
          · next hname =>
              simp only [Bool.or_eq_true, decide_eq_true_eq] at hname
              have hle := hshort name (by rcases hname with rfl | rfl <;> decide)
              simp [hle]
          · split
            · next hname =>
                have hle := hshort name (by rw [hname]; decide)
                simp [hle]
            · split
              · next hlong => simp [Nat.not_le.2 hlong]
              · next hle => simp [Nat.not_lt.1 hle]

theorem follow_eq_resolve {tree : Node} : ∀ {names place place' : List String},
    follow tree place names = .ok place' → place' = resolve place names := by
  intro names
  induction names with
  | nil => intro place place' h; exact (Except.ok.inj h).symm
  | cons name names ih => intro place place' h; exact ih (follow_cons.1 h).2.2

/-- Only the directories of a tree count for where paths lead. -/
theorem follow_congr {tree tree' : Node}
    (h : ∀ place, tree'.HasDirectory place ↔ tree.HasDirectory place) :
    ∀ {names place place' : List String},
      follow tree' place names = .ok place' ↔ follow tree place names = .ok place' := by
  intro names
  induction names with
  | nil => intro place place'; exact Iff.rfl
  | cons name names ih =>
      intro place place'
      rw [follow_cons, follow_cons, h, ih]

/-- What names lead to is a directory or stands in one. -/
theorem follow_parent {tree : Node} : ∀ {rest place place' : List String} {name : String},
    follow tree place (name :: rest) = .ok place' → tree.HasDirectory place' ∨
      ∃ parent last, place' = parent ++ [last] ∧ tree.HasDirectory parent := by
  intro rest
  induction rest with
  | nil =>
      intro place place' name h
      obtain ⟨hdir, -, h⟩ := follow_cons.1 h
      obtain rfl : step place name = place' := Except.ok.inj h
      rw [step]
      split
      · exact Or.inl hdir
      · split
        · left
          rcases List.eq_nil_or_concat place with rfl | ⟨parent, last, rfl⟩
          · exact hdir
          · rw [List.concat_eq_append] at *
            rw [List.dropLast_concat]
            exact hdir.parent
        · exact Or.inr ⟨place, name, rfl, hdir⟩
  | cons name' rest ih =>
      intro place place' name h
      exact ih (follow_cons.1 h).2.2

/-- The place to which a path leads, if it leads anywhere. -/
def place (d : Disk) (path : String) : List String :=
  resolve (if path.toList.head? = some '/' then [] else d.here)
    ((Text.splitAt '/' path.toList).map String.ofList)

theorem locate_eq_place {d : Disk} {path : String} {place : List String}
    (h : d.locate path = .ok place) : place = d.place path := by
  rw [locate] at h
  split at h
  · cases h
  · exact follow_eq_resolve h

theorem locate_congr {d d' : Disk} (hhere : d'.here = d.here)
    (h : ∀ place, d'.tree.HasDirectory place ↔ d.tree.HasDirectory place) {path : String}
    {place : List String} : d'.locate path = .ok place ↔ d.locate path = .ok place := by
  rw [locate, locate, hhere]
  split
  · exact Iff.rfl
  · exact follow_congr h

theorem node_eq_ok {d : Disk} {path : String} {n : Node} :
    d.node path = .ok n ↔ ∃ place, d.locate path = .ok place ∧ d.tree.get? place = some n := by
  rw [node, bind_eq_ok]
  refine exists_congr fun place => and_congr_right fun _ => ?_
  cases d.tree.get? place <;> simp [pure, Except.pure, throw, throwThe, MonadExceptOf.throw]

theorem read_eq_ok {d : Disk} {path : String} {bytes : List UInt8} :
    d.read path = .ok bytes ↔ d.node path = .ok (.file bytes) := by
  rw [read]
  split <;> simp_all

theorem readText_eq_ok {d : Disk} {path : String} {s : List Char} : d.readText path = .ok s ↔
    ∃ bytes, d.read path = .ok bytes ∧ Text.decodeUtf8 bytes = some s := by
  rw [readText]
  cases d.read path with
  | error e => simp [textOf]
  | ok bytes => cases hdecode : Text.decodeUtf8 bytes <;> simp [textOf, hdecode]

/-! ## Writing -/

/-- One disk is another one after a file was written at a path. -/
structure Written (d d' : Disk) (path : String) (bytes : List UInt8) : Prop where
  here : d'.here = d.here
  closed : d'.closed = d.closed
  located : d.locate path = .ok (d.place path)
  tree : FileAt d.tree d'.tree (d.place path) bytes

theorem written_of_write {d d' : Disk} {path : String} {bytes : List UInt8}
    (h : d.write path bytes = .ok d') : Written d d' path bytes := by
  rw [write] at h
  cases hlocate : d.locate path with
  | error e => rw [hlocate] at h; cases h
  | ok place =>
      obtain rfl := locate_eq_place hlocate
      rw [hlocate] at h
      have hnot : ¬ d.tree.HasDirectory (d.place path) := by
        rintro ⟨entries, hdir⟩
        simp only [hdir] at h
        cases h
      have hd' : d' = { d with tree := d.tree.put (d.place path) (.file bytes) } := by
        simp only [] at h
        split at h
        · cases h
        · exact (Except.ok.inj h).symm
      obtain ⟨parent, last, hplace, hparent⟩ : ∃ parent last,
          d.place path = parent ++ [last] ∧ d.tree.HasDirectory parent := by
        rw [locate] at hlocate
        split at hlocate
        · cases hlocate
        · cases hnames : (Text.splitAt '/' path.toList).map String.ofList with
          | nil => exact absurd (List.map_eq_nil_iff.1 hnames) (Text.splitAt_ne_nil _ _)
          | cons name rest =>
              rw [hnames] at hlocate
              exact (follow_parent hlocate).resolve_left hnot
      refine ⟨by rw [hd'], by rw [hd'], hlocate, ?_⟩
      rw [hd', hplace]
      rw [hplace] at hnot
      exact Node.put_file bytes hparent hnot

namespace Written

variable {d d' : Disk} {path : String} {bytes : List UInt8}

theorem locate_iff (h : Written d d' path bytes) {other : String} {place : List String} :
    d'.locate other = .ok place ↔ d.locate other = .ok place :=
  locate_congr h.here h.tree.directories

theorem place_eq (h : Written d d' path bytes) (other : String) :
    d'.place other = d.place other := by
  rw [place, place, h.here]

theorem read_same (h : Written d d' path bytes) : d'.read path = .ok bytes :=
  read_eq_ok.2 (node_eq_ok.2 ⟨_, h.locate_iff.2 h.located, h.tree.file⟩)

theorem read_other (h : Written d d' path bytes) {other : String}
    (hne : d.place other ≠ d.place path) {bytes' : List UInt8} :
    d'.read other = .ok bytes' ↔ d.read other = .ok bytes' := by
  rw [read_eq_ok, read_eq_ok, node_eq_ok, node_eq_ok]
  refine exists_congr fun place => ?_
  rw [h.locate_iff]
  refine and_congr_right fun hlocate => ?_
  rw [locate_eq_place hlocate]
  exact h.tree.others _ bytes' hne

/-- A text is read as it was written. -/
theorem readText_same {s : List Char} (h : Written d d' path (Text.encodeUtf8 s)) :
    d'.readText path = .ok s :=
  readText_eq_ok.2 ⟨_, h.read_same, Text.decodeUtf8_encodeUtf8 s⟩

theorem readText_other (h : Written d d' path bytes) {other : String}
    (hne : d.place other ≠ d.place path) {s : List Char} :
    d'.readText other = .ok s ↔ d.readText other = .ok s := by
  simp only [readText_eq_ok, h.read_other hne]

/-- No directory stands where a file is written. -/
theorem not_directory (h : Written d d' path bytes) : ¬ d.tree.HasDirectory (d.place path) := by
  rw [← h.tree.directories]
  rintro ⟨entries, hdir⟩
  exact absurd (h.tree.file.symm.trans hdir) nofun

end Written

/-- One disk is another one after files were written at some paths, one after another. -/
inductive Writes (d : Disk) : Disk → List String → Prop
  | none : Writes d d []
  | next {d' d'' : Disk} {paths : List String} {path : String} {bytes : List UInt8} :
      Writes d d' paths → Written d' d'' path bytes → Writes d d'' (paths ++ [path])

namespace Writes

variable {d d' d'' : Disk} {paths paths' : List String}

theorem trans (h : Writes d d' paths) (h' : Writes d' d'' paths') :
    Writes d d'' (paths ++ paths') := by
  induction h' with
  | none => rwa [List.append_nil]
  | next _ hwritten ih =>
      rw [← List.append_assoc]
      exact ih.next hwritten

theorem place_eq (h : Writes d d' paths) (path : String) : d'.place path = d.place path := by
  induction h with
  | none => rfl
  | next _ hwritten ih => rw [hwritten.place_eq, ih]

theorem directories (h : Writes d d' paths) (place : List String) :
    d'.tree.HasDirectory place ↔ d.tree.HasDirectory place := by
  induction h with
  | none => exact Iff.rfl
  | next _ hwritten ih => rw [hwritten.tree.directories, ih]

theorem locate_iff (h : Writes d d' paths) {other : String} {place : List String} :
    d'.locate other = .ok place ↔ d.locate other = .ok place := by
  induction h with
  | none => exact Iff.rfl
  | next _ hwritten ih => rw [hwritten.locate_iff, ih]

/-- At the places that no path leads to, the same files stand as before. -/
theorem file_other (h : Writes d d' paths) {place : List String}
    (hne : ∀ path ∈ paths, place ≠ d.place path) {bytes : List UInt8} :
    d'.tree.get? place = some (.file bytes) ↔ d.tree.get? place = some (.file bytes) := by
  induction h with
  | none => exact Iff.rfl
  | @next _ _ paths path _ hwrites hwritten ih =>
      have hlast : place ≠ d.place path :=
        hne path (List.mem_append_right _ (List.mem_singleton_self _))
      rw [hwritten.tree.others place bytes (by rwa [hwrites.place_eq])]
      exact ih fun path' hpath' => hne path' (List.mem_append_left _ hpath')

/-- At the places that no path leads to, the same is read as before. -/
theorem read_other (h : Writes d d' paths) {other : String}
    (hne : ∀ path ∈ paths, d.place other ≠ d.place path) {bytes : List UInt8} :
    d'.read other = .ok bytes ↔ d.read other = .ok bytes := by
  rw [read_eq_ok, read_eq_ok, node_eq_ok, node_eq_ok]
  refine exists_congr fun place => ?_
  rw [h.locate_iff]
  refine and_congr_right fun hlocate => ?_
  rw [locate_eq_place hlocate]
  exact h.file_other hne

end Writes

end Disk

end SecretScan.Files

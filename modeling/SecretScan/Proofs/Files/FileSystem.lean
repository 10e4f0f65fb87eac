import SecretScan.Files.FileSystem
import SecretScan.Proofs.Files.Disk

/-!
# Operations that keep to their file

A path leads to one file for good, whatever is written, and other paths may lead to it as well.
What an operation writes is seen by all of these and by no others, even if it fails midway
(`LawfulFileSystem`). On a disk only the spellings of a path lead to one file; a volume has links
besides, and it fills up.
-/

namespace SecretScan.Files

namespace FileSystem

/-- The files after an operation that writes at a path, whether it failed or not. -/
inductive Touches {σ : Type} [FileSystem σ] (d : σ) (path : String) : σ → Prop
  | write (bytes : List UInt8) : Touches d path (FileSystem.write d path bytes).1
  | copy (source : String) : Touches d path (FileSystem.copy d source path).1

end FileSystem

open FileSystem (Touches)

/-- A file system in which operations keep to the files that they are about. What becomes of such
a file is left open. -/
class LawfulFileSystem (σ : Type) [FileSystem σ] where
  /-- Whether two paths lead to one file. -/
  SameFile : σ → String → String → Prop
  sameFile {d d' : σ} {path : String} : Touches d path d' →
    ∀ a b, SameFile d' a b ↔ SameFile d a b
  read_other {d d' : σ} {path : String} : Touches d path d' →
    ∀ other, ¬ SameFile d other path → ∀ bytes,
      FileSystem.read d' other = .ok bytes ↔ FileSystem.read d other = .ok bytes

namespace FileSystem

variable {σ ε : Type}

theorem writeText_eq [FileSystem σ] {d d' : σ} {path : String} {s : List Char}
    {failure : Option Failure} : FileSystem.writeText d path s = (d', failure) ↔
      ∃ e, FileSystem.write d path (Text.encodeUtf8 s) = (d', e) ∧ failure = e.map .system := by
  rw [FileSystem.writeText]
  constructor
  · rintro ⟨⟩
    exact ⟨_, rfl, rfl⟩
  · rintro ⟨e, hwrite, rfl⟩
    rw [hwrite]

/-! ## Disks -/

@[simp]
theorem toExcept_orSame (d : σ) (x : Except ε σ) : toExcept (orSame d x) = x := by
  cases x <;> rfl

theorem orSame_eq_some {d d' : σ} {x : Except ε σ} {e : ε} :
    orSame d x = (d', some e) ↔ d' = d ∧ x = .error e := by
  cases x <;> simp [orSame, eq_comm]

theorem orSame_eq_none {d d' : σ} {x : Except ε σ} :
    orSame d x = (d', none) ↔ x = .ok d' := by
  cases x <;> simp [orSame]

section Disk

variable {d d' : Disk} {path source target : String} {s : List Char} {bytes : List UInt8}

@[simp]
theorem exists?_disk : FileSystem.exists? d path = d.exists? path := rfl

@[simp]
theorem readText_disk : FileSystem.readText d path = d.readText path := rfl

@[simp]
theorem write_disk : FileSystem.write d path bytes = orSame d (d.write path bytes) := rfl

@[simp]
theorem copy_disk : FileSystem.copy d source target = orSame d (d.copy source target) := rfl

@[simp]
theorem writeText_disk :
    FileSystem.writeText d path s = orSame d ((d.writeText path s).mapError .system) := by
  rw [FileSystem.writeText, write_disk, Disk.writeText]
  cases d.write path (Text.encodeUtf8 s) <;> rfl

/-- A disk is as it was, or something was written at the path. -/
theorem written_of_touches (h : Touches d path d') :
    d' = d ∨ ∃ bytes, Disk.Written d d' path bytes := by
  cases h with
  | write bytes =>
      rw [write_disk]
      cases hwrite : d.write path bytes with
      | error e => exact Or.inl rfl
      | ok d' => exact Or.inr ⟨bytes, Disk.written_of_write hwrite⟩
  | copy source =>
      rw [copy_disk]
      cases hcopy : d.copy source path with
      | error e => exact Or.inl rfl
      | ok d' =>
          obtain ⟨bytes, -, hwrite⟩ := bind_eq_ok.1 hcopy
          exact Or.inr ⟨bytes, Disk.written_of_write hwrite⟩

instance lawful_disk : LawfulFileSystem Disk where
  SameFile d a b := d.place a = d.place b
  sameFile h a b := by
    obtain rfl | ⟨bytes, h⟩ := written_of_touches h
    · rfl
    · rw [h.place_eq, h.place_eq]
  read_other h other hne bytes' := by
    obtain rfl | ⟨bytes, h⟩ := written_of_touches h
    · rfl
    · exact h.read_other hne

end Disk

end FileSystem

/-! ## Volumes -/

/-- A disk with links that takes no more than some bytes. -/
structure Volume where
  disk : Disk
  /-- The links, each with the path to which it leads. -/
  links : List (String × String) := []
  /-- How many bytes can still be written. -/
  room : Nat

namespace Volume

/-- The path to which a path leads by a link. -/
def target (v : Volume) (path : String) : String := (v.links.lookup path).getD path

/-- Why nothing more can be written. -/
def full : SystemError := .numbered 28 "No space left on device" none

/-- Writes as much as there is room for. -/
def write (v : Volume) (path : String) (bytes : List UInt8) : Volume × Option SystemError :=
  match v.disk.write (v.target path) (bytes.take v.room) with
  | .error e => (v, some e)
  | .ok disk => ({ v with disk, room := v.room - bytes.length },
      if bytes.length ≤ v.room then none else some full)

/-- Copies as much of a file as there is room for. -/
def copy (v : Volume) (source path : String) : Volume × Option SystemError :=
  match v.disk.read (v.target source) with
  | .error e => (v, some e)
  | .ok bytes => v.write path bytes

instance fileSystem : FileSystem Volume where
  exists? v path := v.disk.exists? (v.target path)
  read v path := v.disk.read (v.target path)
  write := write
  copy := copy

variable {v v' : Volume} {path : String}

theorem written_of_write (bytes : List UInt8) : (v.write path bytes).1 = v ∨
    (v.write path bytes).1.links = v.links ∧
      ∃ bytes', Disk.Written v.disk (v.write path bytes).1.disk (v.target path) bytes' := by
  rw [write]
  cases hwrite : v.disk.write (v.target path) (bytes.take v.room) with
  | error e => exact Or.inl rfl
  | ok disk => exact Or.inr ⟨rfl, _, Disk.written_of_write hwrite⟩

theorem written_of_touches (h : Touches v path v') : v' = v ∨ v'.links = v.links ∧
    ∃ bytes, Disk.Written v.disk v'.disk (v.target path) bytes := by
  cases h with
  | write bytes => exact written_of_write bytes
  | copy source =>
      change (v.copy source path).1 = v ∨ (v.copy source path).1.links = v.links ∧
        ∃ bytes, Disk.Written v.disk (v.copy source path).1.disk (v.target path) bytes
      rw [copy]
      split
      · exact Or.inl rfl
      · exact written_of_write _

instance lawful : LawfulFileSystem Volume where
  SameFile v a b := v.disk.place (v.target a) = v.disk.place (v.target b)
  sameFile h a b := by
    obtain rfl | ⟨hlinks, bytes, h⟩ := written_of_touches h
    · rfl
    · rw [target, target, hlinks, h.place_eq, h.place_eq]
      rfl
  read_other {v v'} _ h other hne bytes' := by
    obtain rfl | ⟨hlinks, bytes, h⟩ := written_of_touches h
    · rfl
    · change v'.disk.read (v'.target other) = _ ↔ v.disk.read (v.target other) = _
      rw [target, hlinks]
      exact h.read_other hne

end Volume

end SecretScan.Files

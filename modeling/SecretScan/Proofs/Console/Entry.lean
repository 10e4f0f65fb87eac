import Mathlib.Data.List.Forall2
import SecretScan.CommandLine.Session

/-!
# Entries that are shown

Entries are shown one by one, and the first one with a tag that cannot be followed stops the
command. So a list of entries is shown exactly if each of its texts can be (`run_showAll`), on
whatever console.
-/

namespace SecretScan.Console

open CommandLine (Session Step Stop)

/-! ## Members of a list -/

section MapM

variable {α β : Type} {f : α → Option β}

/-- A list is shown exactly if each of its members is. -/
theorem mapM_eq_some_iff {xs : List α} {ys : List β} :
    xs.mapM f = some ys ↔ xs.map f = ys.map some := by
  induction xs generalizing ys with
  | nil =>
      rw [List.mapM_nil, List.map_nil, eq_comm (a := []), List.map_eq_nil_iff, eq_comm (b := [])]
      exact Option.some_inj
  | cons x xs ih =>
      cases ys with
      | nil => simp [List.mapM_cons, Option.bind_eq_some_iff]
      | cons y ys => simp [List.mapM_cons, Option.bind_eq_some_iff, ih]

theorem forall₂_of_mapM {xs : List α} {ys : List β} (h : xs.mapM f = some ys) :
    List.Forall₂ (fun x y => f x = some y) xs ys := by
  have heq := mapM_eq_some_iff.1 h
  rwa [← List.forall₂_eq_eq_eq, List.forall₂_map_left_iff, List.forall₂_map_right_iff] at heq

theorem mapM_ne_none_iff {xs : List α} : xs.mapM f ≠ none ↔ ∀ x ∈ xs, f x ≠ none := by
  induction xs with
  | nil => simp
  | cons x xs ih =>
      rw [List.forall_mem_cons, ← ih, List.mapM_cons]
      cases f x <;> cases xs.mapM f <;> simp

end MapM

/-! ## Sessions -/

/-- A session in which more was shown. -/
def withShown (s : Session) (entries : List Entry) : Session :=
  { s with entries := s.entries ++ entries }

theorem withShown_nil (s : Session) : withShown s [] = s := by
  rw [withShown, List.append_nil]

@[simp]
theorem withShown_withShown (s : Session) (first second : List Entry) :
    withShown (withShown s first) second = withShown s (first ++ second) := by
  rw [withShown, withShown, withShown, List.append_assoc]

/-! ## What is shown -/

variable [Markup]

theorem text_followed_iff {s : String} :
    (Entry.text s).shown? ≠ none ↔ Markup.shown? s ≠ none := by
  rw [Entry.shown?, ne_eq, Option.map_eq_none_iff]

theorem table_followed_iff {title : String} {columns : List String} {rows : List (List String)} :
    (Entry.table title columns rows).shown? ≠ none ↔
      ∀ row ∈ rows, row.mapM Markup.shown? ≠ none := by
  rw [Entry.shown?, ne_eq, Option.map_eq_none_iff]
  exact mapM_ne_none_iff

theorem run_display (entry : Entry) (s : Session) : (Step.display entry).run.run s =
    match entry.shown? with
    | some shown => (.ok (), withShown s [shown])
    | none => (.error .badMarkup, s) := by
  rw [Step.display]
  cases entry.shown? <;> rfl

theorem run_showAll_cons (entry : Entry) (entries : List Entry) (s : Session) :
    (Step.showAll (entry :: entries)).run.run s =
      match entry.shown? with
      | some shown => (Step.showAll entries).run.run (withShown s [shown])
      | none => (.error .badMarkup, s) := by
  have hrun : (Step.showAll (entry :: entries)).run.run s =
      match (Step.display entry).run.run s with
      | (.ok _, t) => (Step.showAll entries).run.run t
      | (.error stop, t) => (.error stop, t) := by
    rw [Step.showAll, List.forM_eq_forM, List.forM_cons, ExceptT.run_bind, StateT.run_bind]
    rcases (Step.display entry).run.run s with ⟨_ | _, t⟩ <;> rfl
  rw [hrun, run_display]
  cases entry.shown? <;> rfl

/-- Entries are all shown exactly if the tags of each of them can be followed. -/
theorem run_showAll {entries : List Entry} {s t : Session} :
    (Step.showAll entries).run.run s = (.ok (), t) ↔
      ∃ shown, entries.mapM Entry.shown? = some shown ∧ t = withShown s shown := by
  induction entries generalizing s with
  | nil =>
      have hrun : (Step.showAll []).run.run s = (.ok (), s) := rfl
      rw [hrun, List.mapM_nil]
      constructor
      · rintro ⟨⟩
        exact ⟨[], rfl, (withShown_nil _).symm⟩
      · rintro ⟨shown, ⟨⟩, rfl⟩
        rw [withShown_nil]
  | cons entry entries ih =>
      rw [run_showAll_cons, List.mapM_cons]
      cases entry.shown? with
      | none => exact iff_of_false nofun nofun
      | some shown => simp [ih, Option.bind_eq_some_iff]

theorem run_showAll_fst (entries : List Entry) (s : Session) :
    ((Step.showAll entries).run.run s).1 =
      if (entries.mapM Entry.shown?).isSome then .ok () else .error .badMarkup := by
  induction entries generalizing s with
  | nil => rfl
  | cons entry entries ih =>
      rw [run_showAll_cons, List.mapM_cons]
      cases entry.shown? with
      | none => rfl
      | some shown =>
          change ((Step.showAll entries).run.run (withShown s [shown])).1 = _
          rw [ih]
          cases entries.mapM Entry.shown? <;> rfl

theorem run_showAll_fst_eq_ok {entries : List Entry} {s : Session} :
    ((Step.showAll entries).run.run s).1 = .ok () ↔ ∀ entry ∈ entries, entry.shown? ≠ none := by
  rw [← mapM_ne_none_iff, run_showAll_fst, ← Option.isSome_iff_ne_none]
  split
  · next hshown => exact iff_of_true rfl hshown
  · next hshown => exact iff_of_false nofun hshown

end SecretScan.Console

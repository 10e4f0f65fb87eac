import Mathlib.Data.List.DropRight
import Mathlib.Data.List.Nodup
import SecretScan.Gitignore
import SecretScan.Proofs.Env.File
import SecretScan.Proofs.Text.Search

/-!
# Completing the list of what is ignored

A text is completed behind its last line, which is ended first if it has to be. So no line of it
changes, and what is added stands on lines of its own: the lines that are an entry are those of
the old text and those that were added (`entryCount_ended_append`). An entry that was missing is
there once then, an entry that was there is not added again (`entryCount_completed`), and a text
that has them all is complete.
-/

namespace SecretScan.Gitignore

open Env (Unbroken ended)

/-- The number of lines of a text that are an entry, but for carriage returns at their end. -/
def entryCount (entry : String) (s : List Char) : Nat :=
  (Text.lines s).countP fun line => trimEnd line = entry.toList

/-- What can stand on a line of its own. -/
structure IsEntry (entry : String) : Prop where
  ne_empty : entry ≠ ""
  unbroken : Unbroken entry.toList

theorem isEntry_required : ∀ entry ∈ required, IsEntry entry := by
  have hall : ∀ entry ∈ required, entry ≠ "" ∧ Unbroken entry.toList := by decide
  exact fun entry h => ⟨(hall entry h).1, (hall entry h).2⟩

/-! ## Lines and their ends -/

theorem trimEnd_eq_iff {line body : List Char} (h : Unbroken body) :
    trimEnd line = body ↔ ∃ n, line = body ++ List.replicate n '\r' := by
  constructor
  · rintro rfl
    refine ⟨(line.rtakeWhile (· == '\r')).length, ?_⟩
    have hreturns : ∀ c ∈ line.rtakeWhile (· == '\r'), c = '\r' :=
      fun c hc => eq_of_beq (List.mem_rtakeWhile_imp (p := (· == '\r')) hc)
    rw [← List.eq_replicate_of_mem hreturns]
    exact List.rdropWhile_append_rtakeWhile.symm
  · rintro ⟨n, rfl⟩
    rw [trimEnd, List.reverse_append, List.reverse_replicate,
      List.dropWhile_append_of_pos (by simp), ← List.rdropWhile, List.rdropWhile_eq_self_iff]
    exact fun hne heq => (h _ (List.getLast_mem hne)).2 (eq_of_beq heq)

theorem entryCount_pos_iff {entry : String} (h : IsEntry entry) {s : List Char} :
    0 < entryCount entry s ↔ ∃ n, entry.toList ++ List.replicate n '\r' ∈ Text.lines s := by
  rw [entryCount, List.countP_pos_iff]
  simp only [decide_eq_true_eq, trimEnd_eq_iff h.unbroken]
  constructor
  · rintro ⟨line, hline, n, rfl⟩
    exact ⟨n, hline⟩
  · rintro ⟨n, hline⟩
    exact ⟨_, hline, n, rfl⟩

theorem entryCount_nil {entry : String} (h : IsEntry entry) : entryCount entry [] = 0 := by
  have hne : [] ≠ entry.toList := fun heq => h.ne_empty (String.toList_eq_nil_iff.1 heq.symm)
  simpa [entryCount, Text.lines, Text.splitAt, trimEnd] using hne

/-- A line feed keeps the lines before it apart from those behind it. -/
theorem entryCount_feed (entry : String) (s t : List Char) :
    entryCount entry (s ++ '\n' :: t) = entryCount entry s + entryCount entry t := by
  rw [entryCount, Text.lines, Text.splitAt_append_sep, List.countP_append]
  rfl

theorem entryCount_line {entry : String} {body : List Char} (h : Unbroken body) :
    entryCount entry body = if body = entry.toList then 1 else 0 := by
  have hline : Text.lines body = [body] := Text.splitAt_single fun hmem => (h _ hmem).1 rfl
  have htrim : trimEnd body = body := (trimEnd_eq_iff h).2 ⟨0, by simp⟩
  rw [entryCount, hline, List.countP_singleton, htrim]
  simp only [decide_eq_true_eq]

/-! ## Adding lines -/

theorem ended_cases (s : List Char) : ended s = s ∧ (s = [] ∨ ∃ t, s = t ++ ['\n']) ∨
    ended s = s ++ ['\n'] ∧ s ≠ [] ∧ s.getLast? ≠ some '\n' := by
  rcases List.eq_nil_or_concat s with rfl | ⟨t, c, rfl⟩
  · exact Or.inl ⟨rfl, Or.inl rfl⟩
  · rw [List.concat_eq_append]
    have hlast : (t ++ [c]).getLast? = some c := by simp
    by_cases hc : c = '\n'
    · subst hc
      exact Or.inl ⟨by simp [ended], Or.inr ⟨t, rfl⟩⟩
    · exact Or.inr ⟨by simp [ended, hc], by simp, by simpa using hc⟩

theorem entryCount_ended_append {entry : String} (h : IsEntry entry) (s t : List Char) :
    entryCount entry (ended s ++ t) = entryCount entry s + entryCount entry t := by
  obtain ⟨heq, rfl | ⟨u, rfl⟩⟩ | ⟨heq, -⟩ := ended_cases s
  · rw [heq, entryCount_nil h, List.nil_append, Nat.zero_add]
  · rw [heq, List.append_assoc, List.singleton_append, entryCount_feed, entryCount_feed,
      entryCount_nil h, Nat.add_zero]
  · rw [heq, List.append_assoc, List.singleton_append, entryCount_feed]

theorem entryCount_rendered {entry : String} (h : IsEntry entry) {added : List String}
    (hadded : ∀ e ∈ added, IsEntry e) : entryCount entry (rendered added) = added.count entry := by
  induction added with
  | nil => exact entryCount_nil h
  | cons first added ih =>
      rw [List.forall_mem_cons] at hadded
      have hrendered : rendered (first :: added) = first.toList ++ '\n' :: rendered added := by
        rw [rendered, List.flatMap_cons, List.append_assoc]
        rfl
      rw [hrendered, entryCount_feed, ih hadded.2, entryCount_line hadded.1.unbroken,
        List.count_cons, Nat.add_comm]
      simp only [String.toList_inj, beq_iff_eq]

/-! ## Completing a text -/

theorem missing_eq (s : List Char) :
    missing s = required.filter fun entry => entryCount entry s = 0 := by
  rw [missing]
  refine List.filter_congr fun entry _ => ?_
  rw [Bool.eq_iff_iff]
  simp [entryCount, List.countP_eq_zero]

theorem isEntry_of_missing {s : List Char} : ∀ entry ∈ missing s, IsEntry entry := by
  intro entry h
  rw [missing_eq] at h
  exact isEntry_required entry (List.mem_of_mem_filter h)

/-- No text is completed like an empty one. -/
theorem completed?_eq (old : Option (List Char)) : completed? old =
    if missing (old.getD []) = [] then none
    else some (ended (old.getD []) ++ rendered (missing (old.getD []))) := by
  cases old with
  | none => rfl
  | some s =>
      rw [completed?, Option.getD_some]
      cases hmissing : missing s with
      | nil => rw [if_pos rfl]
      | cons first rest =>
          rw [if_neg (List.cons_ne_nil first rest)]
          rfl

/-- The text that there is after a call. -/
def completed (old : Option (List Char)) : List Char :=
  (completed? old).getD (old.getD [])

theorem completed?_eq_none_iff {old : Option (List Char)} :
    completed? old = none ↔ missing (old.getD []) = [] := by
  rw [completed?_eq]
  split
  · next h => simp [h]
  · next h => simp [h]

theorem completed_of_some {old : Option (List Char)} {new : List Char}
    (h : completed? old = some new) : completed old = new := by
  rw [completed, h, Option.getD_some]

/-- What stands between a text and what is added to it: the end of a last line that has none. -/
def lastEnd (s : List Char) (added : List String) : List Char :=
  if added ≠ [] ∧ s ≠ [] ∧ s.getLast? ≠ some '\n' then ['\n'] else []

/-- A call adds the entries that are missing. -/
theorem completed_eq (old : Option (List Char)) : completed old =
    old.getD [] ++ lastEnd (old.getD []) (missing (old.getD [])) ++
      rendered (missing (old.getD [])) := by
  rw [completed, completed?_eq, lastEnd]
  split
  · next h => simp [h, rendered]
  · next h =>
      rw [Option.getD_some]
      obtain ⟨heq, hended⟩ | ⟨heq, hlast⟩ := ended_cases (old.getD [])
      · rw [heq, if_neg, List.append_nil]
        rintro ⟨-, hne, hlast⟩
        obtain hempty | ⟨t, ht⟩ := hended
        · exact hne hempty
        · exact hlast (by rw [ht, List.getLast?_concat])
      · rw [heq, if_pos ⟨h, hlast⟩]

theorem rendered_eq_nil {added : List String} : rendered added = [] ↔ added = [] := by
  cases added with
  | nil => simp [rendered]
  | cons first added => simp [rendered]

/-- What is complete stays, and what is not changes. -/
theorem completed_unchanged_iff (old : Option (List Char)) :
    old = some (completed old) ↔ completed? old = none := by
  constructor
  · intro h
    have heq := completed_eq old
    have hold : old.getD [] = completed old := congrArg (Option.getD · []) h
    rw [← hold, List.append_assoc, List.self_eq_append_right, List.append_eq_nil_iff,
      rendered_eq_nil] at heq
    exact completed?_eq_none_iff.2 heq.2
  · intro h
    cases old with
    | none => cases h
    | some s => rw [completed, h, Option.getD_none, Option.getD_some]

theorem entryCount_completed {entry : String} (h : entry ∈ required) (old : Option (List Char)) :
    entryCount entry (completed old) = max 1 (entryCount entry (old.getD [])) := by
  have hcount : (missing (old.getD [])).count entry =
      if entryCount entry (old.getD []) = 0 then 1 else 0 := by
    have hnodup : required.Nodup := by decide
    rw [missing_eq, (hnodup.filter _).count]
    simp [h]
  rw [completed, completed?_eq]
  split
  · next hnone =>
      rw [hnone, List.count_nil] at hcount
      rw [Option.getD_none]
      split at hcount
      · cases hcount
      · omega
  · rw [Option.getD_some, entryCount_ended_append (isEntry_required entry h),
      entryCount_rendered (isEntry_required entry h) isEntry_of_missing, hcount]
    split <;> omega

theorem completed_complete (old : Option (List Char)) :
    completed? (some (completed old)) = none := by
  rw [completed?_eq_none_iff, Option.getD_some, missing_eq, List.filter_eq_nil_iff]
  intro entry h
  rw [entryCount_completed h]
  simp

end SecretScan.Gitignore

import SecretScan.Text.Search

/-!
# Finding and cutting a text

A text is cut at every separator. What has none goes in front of the first part, and what
has none at the end of the last part; a separator ends a part. Joining names puts the
separators back.
-/

namespace SecretScan.Text

@[simp]
theorem occursIn_iff {sub s : List Char} : occursIn sub s = true ↔ sub <:+: s := by
  induction s with
  | nil => rw [occursIn, List.isEmpty_iff, List.infix_nil]
  | cons c s ih => rw [occursIn, Bool.or_eq_true, List.isPrefixOf_iff_prefix, ih, List.infix_cons_iff]

variable {sep : Char}

theorem splitAt_ne_nil (sep : Char) (s : List Char) : splitAt sep s ≠ [] := by
  cases s with
  | nil => simp [splitAt]
  | cons c s =>
      rw [splitAt]
      split
      · simp
      · split <;> simp

@[simp]
theorem splitAt_sep (sep : Char) (s : List Char) :
    splitAt sep (sep :: s) = [] :: splitAt sep s := by
  rw [splitAt, if_pos rfl]

theorem splitAt_cons_ne {c : Char} (hc : c ≠ sep) (s : List Char) :
    ∃ part parts, splitAt sep s = part :: parts ∧ splitAt sep (c :: s) = (c :: part) :: parts := by
  cases h : splitAt sep s with
  | nil => exact absurd h (splitAt_ne_nil sep s)
  | cons part parts => exact ⟨part, parts, rfl, by rw [splitAt, if_neg hc, h]⟩

/-- What has no separator goes in front of the first part. -/
theorem splitAt_append {w : List Char} (hw : sep ∉ w) {s part : List Char}
    {parts : List (List Char)} (h : splitAt sep s = part :: parts) :
    splitAt sep (w ++ s) = (w ++ part) :: parts := by
  induction w with
  | nil => exact h
  | cons c w ih =>
      rw [List.mem_cons, not_or] at hw
      obtain ⟨part', parts', h', h''⟩ := splitAt_cons_ne (Ne.symm hw.1) (w ++ s)
      rw [ih hw.2, List.cons.injEq] at h'
      rw [List.cons_append, h'', ← h'.1, ← h'.2]
      rfl

theorem splitAt_break {w : List Char} (hw : sep ∉ w) (s : List Char) :
    splitAt sep (w ++ sep :: s) = w :: splitAt sep s := by
  rw [splitAt_append hw (splitAt_sep sep s), List.append_nil]

/-- No part holds the separator. -/
theorem not_mem_of_mem_splitAt {s part : List Char} (h : part ∈ splitAt sep s) : sep ∉ part := by
  induction s generalizing part with
  | nil =>
      rw [splitAt, List.mem_singleton] at h
      rw [h]
      exact List.not_mem_nil
  | cons c s ih =>
      by_cases hc : c = sep
      · subst hc
        rw [splitAt_sep, List.mem_cons] at h
        obtain rfl | h := h
        · exact List.not_mem_nil
        · exact ih h
      · obtain ⟨first, parts, hs, hcs⟩ := splitAt_cons_ne hc s
        rw [hcs, List.mem_cons] at h
        obtain rfl | h := h
        · rw [List.mem_cons, not_or]
          exact ⟨Ne.symm hc, ih (by rw [hs]; exact List.mem_cons_self)⟩
        · exact ih (by rw [hs]; exact List.mem_cons_of_mem _ h)

theorem splitAt_single {w : List Char} (hw : sep ∉ w) : splitAt sep w = [w] := by
  have h := splitAt_append hw (show splitAt sep [] = [[]] from rfl)
  rwa [List.append_nil] at h

/-- A separator keeps what stands before it apart from what stands behind it. -/
theorem splitAt_append_sep (s t : List Char) :
    splitAt sep (s ++ sep :: t) = splitAt sep s ++ splitAt sep t := by
  induction s with
  | nil => exact splitAt_sep sep t
  | cons c s ih =>
      by_cases hc : c = sep
      · subst hc
        rw [List.cons_append, splitAt_sep, splitAt_sep, ih, List.cons_append]
      · obtain ⟨part, parts, h, h'⟩ := splitAt_cons_ne hc s
        rw [List.cons_append, h', List.cons_append, splitAt, if_neg hc, ih, h, List.cons_append]

/-- What has no separator goes to the end of the last part. -/
theorem splitAt_concat (sep : Char) (s : List Char) : ∃ parts part, ∀ w, sep ∉ w →
    splitAt sep (s ++ w) = parts ++ [part ++ w] := by
  induction s with
  | nil => exact ⟨[], [], fun w hw => splitAt_single hw⟩
  | cons c s ih =>
      obtain ⟨parts, part, h⟩ := ih
      by_cases hc : c = sep
      · subst hc
        refine ⟨[] :: parts, part, fun w hw => ?_⟩
        rw [List.cons_append, splitAt_sep, h w hw]
        rfl
      · cases parts with
        | nil =>
            refine ⟨[], c :: part, fun w hw => ?_⟩
            rw [List.cons_append, splitAt, if_neg hc, h w hw]
            rfl
        | cons first parts =>
            refine ⟨(c :: first) :: parts, part, fun w hw => ?_⟩
            rw [List.cons_append, splitAt, if_neg hc, h w hw]
            rfl

end SecretScan.Text

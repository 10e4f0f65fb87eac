import SecretScan.Text.LineEnds

/-!
# Lines and their ends

A text is the sequence of its lines with their ends (`linesWithEnds_flatten`), and its first line is
cut at the first line end there is (`exists_lineEnd`). Where the line ends of a text are unified it
makes no difference whether this is done before or after the text is put together
(`unifyLineEnds_append`).
-/

namespace SecretScan.Text

theorem unifyLineEnds_eq_self {s : List Char} (h : '\r' ∉ s) : unifyLineEnds s = s := by
  fun_induction unifyLineEnds s with
  | case1 rest ih => exact absurd List.mem_cons_self h
  | case2 rest _ ih => exact absurd List.mem_cons_self h
  | case3 c rest _ _ ih => rw [ih fun hmem => h (List.mem_cons_of_mem _ hmem)]
  | case4 => rfl

/-- The ends of two texts are unified by themselves, unless a line end is cut in two. -/
theorem unifyLineEnds_append {s t : List Char}
    (h : s.getLast? = some '\r' → t.head? ≠ some '\n') :
    unifyLineEnds (s ++ t) = unifyLineEnds s ++ unifyLineEnds t := by
  fun_induction unifyLineEnds s with
  | case1 rest ih =>
      rw [List.cons_append, List.cons_append, unifyLineEnds, List.cons_append, ih]
      intro hlast
      exact h (by rw [List.getLast?_cons_cons, List.getLast?_cons, hlast]; rfl)
  | case2 rest hrest ih =>
      rw [List.cons_append, unifyLineEnds, List.cons_append, ih]
      · intro hlast
        exact h (by rw [List.getLast?_cons, hlast]; rfl)
      · rintro more heq
        cases rest with
        | nil =>
            obtain rfl : t = '\n' :: more := heq
            exact h rfl rfl
        | cons c rest =>
            obtain ⟨rfl, -⟩ := List.cons.inj heq
            exact hrest rest rfl
  | case3 c rest hboth hone ih =>
      rw [List.cons_append, unifyLineEnds, List.cons_append, ih]
      · intro hlast
        exact h (by rw [List.getLast?_cons, hlast]; rfl)
      · exact fun more heq _ => hone heq
      · exact hone
  | case4 => rfl

theorem getLast?_unifyLineEnds (s : List Char) :
    (unifyLineEnds s).getLast? = s.getLast?.map fun c => if c = '\r' then '\n' else c := by
  fun_induction unifyLineEnds s with
  | case1 rest ih => 
      rw [List.getLast?_cons, ih, List.getLast?_cons_cons, List.getLast?_cons]
      cases rest.getLast? <;> rfl
  | case2 rest _ ih =>
      rw [List.getLast?_cons, ih, List.getLast?_cons]
      cases rest.getLast? <;> rfl
  | case3 c rest _ hc ih =>
      have hc : c ≠ '\r' := fun heq => hc heq
      rw [List.getLast?_cons, ih, List.getLast?_cons]
      cases rest.getLast? with
      | none => simp [hc]
      | some d => rfl
  | case4 => rfl

theorem linesWithEnds_flatten (s : List Char) : (linesWithEnds s).flatten = s := by
  fun_induction linesWithEnds s with
  | case1 rest ih => simp [ih]
  | case2 c rest _ hend ih => simp [ih]
  | case3 c rest _ hend line lines hlines ih => rw [hlines] at ih; simp [← ih]
  | case4 c rest _ hend hlines ih => rw [hlines] at ih; simp [← ih]
  | case5 => rfl

/-- What ends a line in front of a text, which is a line feed only if the line does not end in a
carriage return. -/
inductive LineEnd : List Char → List Char → Prop
  | both {rest : List Char} : LineEnd ['\r', '\n'] rest
  | one {c : Char} {rest : List Char} : isLineEnd c = true →
      (c = '\r' → rest.head? ≠ some '\n') → LineEnd [c] rest
  | nothing : LineEnd [] []

/-- The first line of a text. -/
theorem exists_lineEnd {s : List Char} (hs : s ≠ []) :
    ∃ body e rest, s = body ++ (e ++ rest) ∧ linesWithEnds s = (body ++ e) :: linesWithEnds rest ∧
      (∀ c ∈ body, isLineEnd c = false) ∧ LineEnd e rest := by
  fun_induction linesWithEnds s with
  | case1 rest ih => exact ⟨[], _, rest, rfl, rfl, by simp, .both⟩
  | case2 c rest hboth hend ih =>
      refine ⟨[], [c], rest, rfl, rfl, by simp, .one hend ?_⟩
      rintro rfl hhead
      obtain ⟨more, rfl⟩ := List.head?_eq_some_iff.1 hhead
      exact hboth more rfl rfl
  | case3 c rest _ hend line lines hlines ih =>
      have hrest : rest ≠ [] := by
        rintro rfl
        cases hlines
      obtain ⟨body, e, more, rfl, hcut, hbody, he⟩ := ih hrest
      rw [hlines] at hcut
      obtain ⟨rfl, rfl⟩ := List.cons.inj hcut
      exact ⟨c :: body, e, more, rfl, rfl,
        List.forall_mem_cons.2 ⟨Bool.not_eq_true _ ▸ hend, hbody⟩, he⟩
  | case4 c rest _ hend hlines ih =>
      have hrest := linesWithEnds_flatten rest
      rw [hlines] at hrest
      obtain rfl : [] = rest := hrest
      exact ⟨[c], [], [], rfl, rfl, by simpa using hend, .nothing⟩
  | case5 => exact absurd rfl hs

end SecretScan.Text

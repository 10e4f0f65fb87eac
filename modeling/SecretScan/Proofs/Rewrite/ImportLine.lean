import SecretScan.Proofs.Rewrite.ApiKeys
import SecretScan.Proofs.Text.LineEnds
import SecretScan.Script.Import

/-!
# The line that imports

A script that looks up variables may get a line for an import. It is put between two lines
for a reader that knows all line ends, and so it may still cut a line of the scan in two.
The rules that are sealed off from references do not notice that either.
-/

namespace SecretScan

namespace Text

/-- So many lines with their ends are nothing, or all there is, or they end in a line end. -/
theorem linesWithEnds_take (s : List Char) : ∀ n, n = 0 ∨
    ((linesWithEnds s).drop n).flatten = [] ∨
      ∃ x b, ((linesWithEnds s).take n).flatten = x ++ [b] ∧ isLineEnd b = true := by
  have hcons : ∀ (x : List Char) (b : Char) (lines : List (List Char)) (n : Nat),
      isLineEnd b = true → (n = 0 ∨ (lines.drop n).flatten = [] ∨
        ∃ x b, (lines.take n).flatten = x ++ [b] ∧ isLineEnd b = true) →
      (((x ++ [b]) :: lines).drop (n + 1)).flatten = [] ∨
        ∃ y c, (((x ++ [b]) :: lines).take (n + 1)).flatten = y ++ [c] ∧ isLineEnd c = true := by
    intro x b lines n hb h
    rcases h with rfl | h | ⟨y, c, hy, hc⟩
    · exact Or.inr ⟨x, b, by simp, hb⟩
    · exact Or.inl (by simpa using h)
    · exact Or.inr ⟨x ++ b :: y, c, by simp [hy], hc⟩
  fun_induction linesWithEnds s with
  | case1 rest ih =>
      intro n
      cases n with
      | zero => exact Or.inl rfl
      | succ n => exact Or.inr (hcons ['\r'] '\n' _ n (by decide) (ih n))
  | case2 c rest _ hend ih =>
      intro n
      cases n with
      | zero => exact Or.inl rfl
      | succ n => exact Or.inr (hcons [] c _ n hend (ih n))
  | case3 c rest _ hend line lines hlines ih =>
      intro n
      cases n with
      | zero => exact Or.inl rfl
      | succ n =>
          rw [hlines] at ih
          rcases ih (n + 1) with h | h | ⟨x, b, hx, hb⟩
          · cases h
          · exact Or.inr (Or.inl (by simpa using h))
          · exact Or.inr (Or.inr ⟨c :: x, b, by simpa using hx, hb⟩)
  | case4 c rest _ hend hlines ih =>
      intro n
      cases n with
      | zero => exact Or.inl rfl
      | succ n => exact Or.inr (Or.inl (by simp))
  | case5 => intro n; exact Or.inr (Or.inl (by simp))

end Text

namespace Script

open Text

/-- A text with a line put into it, for an import of the module with the variables: in front
of all, behind all or behind the end of a line. -/
structure ImportsAt (x y ins : List Char) : Prop where
  place : x = [] ∨ y = [] ∨ ∃ x' b, x = x' ++ [b] ∧ isLineEnd b = true
  line : ∃ front tail, ins = front ++ "import os".toList ++ tail ++ ['\n'] ∧
    (∀ c ∈ front, c ∈ ['\r', '\n']) ∧ ∀ c ∈ tail, c ∈ ['\r', '\n']

theorem insertImport_importsAt (s : List Char) (leading : Nat) :
    ∃ x y ins, s = x ++ y ∧ insertImport s leading = x ++ (ins ++ y) ∧ ImportsAt x y ins := by
  have hend : ∃ tail, lineEndOf s = tail ++ ['\n'] ∧ ∀ c ∈ tail, c ∈ ['\r', '\n'] := by
    rw [lineEndOf]
    split
    · exact ⟨['\r'], rfl, by simp⟩
    · exact ⟨[], rfl, by simp⟩
  obtain ⟨tail, htail, hchars⟩ := hend
  refine ⟨((linesWithEnds s).take leading).flatten, ((linesWithEnds s).drop leading).flatten,
    (if leading = 0 || ((linesWithEnds s).take leading).flatten.getLast? = some '\n' then []
      else lineEndOf s) ++ "import os".toList ++ tail ++ ['\n'], ?_, ?_, ?_, ?_⟩
  · rw [← List.flatten_append, List.take_append_drop, linesWithEnds_flatten]
  · simp only [insertImport]
    rw [htail]
    simp [variablesModule]
  · rcases linesWithEnds_take s leading with rfl | h | h
    · exact Or.inl rfl
    · exact Or.inr (Or.inl h)
    · exact Or.inr (Or.inr h)
  · refine ⟨_, tail, rfl, ?_, hchars⟩
    split
    · simp
    · rw [htail]
      intro c hc
      rcases List.mem_append.1 hc with hc | hc
      · exact hchars c hc
      · rw [List.mem_singleton.1 hc]
        simp

/-- A script that is made to import the module with the variables is as it was or has a line
more. -/
theorem withVariables_importsAt {s t : List Char} (h : withVariables s = .ok t) :
    t = s ∨ ∃ x y ins, s = x ++ y ∧ t = x ++ (ins ++ y) ∧ ImportsAt x y ins := by
  unfold withVariables at h
  split at h
  · cases h
  · split at h
    · exact Or.inl (Except.ok.inj h).symm
    · split at h
      · exact Or.inl (Except.ok.inj h).symm
      · obtain ⟨x, y, ins, hs, ht, hins⟩ := insertImport_importsAt s _
        exact Or.inr ⟨x, y, ins, hs, (Except.ok.inj h).symm.trans ht, hins⟩

end Script

namespace Rewrite

open Pattern Secrets Script

theorem mem_lineEnds {c : Char} (h : Text.isLineEnd c = true) : c ∈ lineEnds := by
  simp only [Text.isLineEnd, Bool.or_eq_true, Bool.and_eq_true, decide_eq_true_eq,
    beq_iff_eq] at h
  rw [← Char.ofNat_toNat c]
  refine List.mem_map.2 ⟨c.toNat, ?_, rfl⟩
  simp only [List.mem_cons, List.not_mem_nil, or_false]
  omega

/-- The characters of a line that imports. -/
def importAlphabet : List Char := "import os\r\n".toList

/-- A line that imports is sealed off from a rule that needs some other character. -/
theorem textSpots_import {p : Pattern} (hp : p.shuns false edgeChars = true)
    (heats : p.eats = true) (hneeds : p.needs importAlphabet = true) {x y ins : List Char}
    (h : ImportsAt x y ins) {a' : Nat} {w : List Char} {pos : Nat}
    (hw : (a', w) ∈ textSpots p pos (x ++ (ins ++ y))) :
    ∃ a, (a, w) ∈ textSpots p pos (x ++ y) := by
  obtain ⟨front, tail, rfl, hfront, htail⟩ := h.line
  have hends : ∀ c ∈ ['\r', '\n'], c ∈ edgeChars ∧ c ∈ importAlphabet :=
    List.all_iff_forall_prop.1 (by decide)
  obtain ⟨c, rest, hline, hc⟩ : ∃ c rest, front ++ "import os".toList ++ tail = c :: rest ∧
      c ∈ edgeChars := by
    cases front with
    | nil => exact ⟨'i', _, rfl, by decide⟩
    | cons c front => exact ⟨c, _, rfl, (hends c (hfront c List.mem_cons_self)).1⟩
  have hrest : ∀ d ∈ rest, d ∈ importAlphabet := by
    intro d hd
    have hmem : d ∈ front ++ "import os".toList ++ tail := hline ▸ List.mem_cons_of_mem c hd
    rcases List.mem_append.1 hmem with hmem | hmem
    · rcases List.mem_append.1 hmem with hmem | hmem
      · exact (hends d (hfront d hmem)).2
      · have hword : ∀ d ∈ "import os".toList, d ∈ importAlphabet :=
          List.all_iff_forall_prop.1 (by decide)
        exact hword d hmem
    · exact (hends d (htail d hmem)).2
  rw [hline, show x ++ (c :: rest ++ ['\n'] ++ y) = x ++ c :: (rest ++ '\n' :: y) by simp,
    textSpots_cut hp heats (Or.inr ⟨hc, by simp⟩), textSpots_cut hp heats (Or.inl rfl),
    textSpots_needs hneeds hrest, List.nil_append] at hw
  rcases h.place with rfl | rfl | ⟨x', b, rfl, hb⟩
  · rw [textSpots_nil hp heats, List.nil_append] at hw
    exact textSpots_anywhere hw pos
  · rw [textSpots_nil hp heats, List.append_nil] at hw
    rw [List.append_nil]
    exact textSpots_anywhere hw pos
  · have hb' : b ∈ edgeChars := List.mem_append_right _ (mem_lineEnds hb)
    rw [textSpots_cut hp heats (Or.inr ⟨hb', by simp⟩), textSpots_nil hp heats,
      List.append_nil] at hw
    rw [List.append_assoc, List.singleton_append, textSpots_cut hp heats (Or.inr ⟨hb', by simp⟩)]
    rcases List.mem_append.1 hw with hw | hw
    · exact ⟨a', List.mem_append_left _ hw⟩
    · obtain ⟨a, ha⟩ := textSpots_anywhere hw _
      exact ⟨a, List.mem_append_right _ ha⟩

/-- A key of a text with a line that imports is a key of the text without it. -/
theorem apiKey_import {w : List Char} (hw : Reads apiKeyPattern w) (hbreak : '\n' ∉ w)
    {x y ins u v : List Char} (h : ImportsAt x y ins) (heq : x ++ (ins ++ y) = u ++ (w ++ v)) :
    ∃ u' v', x ++ y = u' ++ (w ++ v') := by
  obtain ⟨front, tail, rfl, hfront, htail⟩ := h.line
  obtain ⟨front', q, rfl, hq⟩ := apiKey_end hw
  have heq : (x ++ (front ++ "import os".toList ++ tail)) ++ '\n' :: y =
      u ++ (front' ++ [q] ++ v) := by
    rw [← heq]
    simp
  rcases factor_cut hbreak heq with ⟨v', hleft⟩ | ⟨u', hright⟩
  · have hends : ∀ q ∈ quotes, q ∉ ['\r', '\n'] ∧ q ∉ "import os".toList :=
      List.all_iff_forall_prop.1 (by decide)
    have hline : q ∉ front ++ "import os".toList ++ tail := by
      intro hmem
      rcases List.mem_append.1 hmem with hmem | hmem
      · rcases List.mem_append.1 hmem with hmem | hmem
        · exact (hends q hq).1 (hfront q hmem)
        · exact (hends q hq).2 hmem
      · exact (hends q hq).1 (htail q hmem)
    obtain ⟨v'', hx⟩ := factor_before hline hleft
    exact ⟨u, v'' ++ y, by rw [hx]; simp⟩
  · exact ⟨x ++ u', v, by rw [hright]; simp⟩

end Rewrite

end SecretScan

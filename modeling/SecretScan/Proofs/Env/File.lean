import SecretScan.Env.File
import SecretScan.Proofs.Env.Names

/-!
# What stands in an environment file

A written value is read back whatever it is, and it has no line end in it: a line end is a
blank, so a value with one is written in quotes, where it is escaped. Nor does a name have one.
So every variable takes one line of the file, in which the first equals sign ends the name.
-/

namespace SecretScan.Env

namespace Value

/-- Four characters are escaped, and all others stand for themselves. -/
theorem escape_cases (c : Char) : c = '\\' ∨ c = '"' ∨ c = '\n' ∨ c = '\r' ∨
    (c ≠ '\\' ∧ c ≠ '"' ∧ c ≠ '\n' ∧ c ≠ '\r' ∧ escape c = [c]) := by
  rw [escape]
  simp only [beq_iff_eq]
  split
  · next h => exact Or.inl h
  split
  · next h => exact Or.inr (Or.inl h)
  split
  · next h => exact Or.inr (Or.inr (Or.inl h))
  split
  · next h => exact Or.inr (Or.inr (Or.inr (Or.inl h)))
  · next hslash hquote hfeed hreturn =>
      exact Or.inr (Or.inr (Or.inr (Or.inr ⟨hslash, hquote, hfeed, hreturn, rfl⟩)))

theorem unescape_plain {c : Char} (hslash : c ≠ '\\') (hquote : c ≠ '"') (rest : List Char) :
    unescape (c :: rest) = c :: unescape rest := by
  rw [unescape.eq_def]
  split <;> simp_all

theorem unescape_escape (s rest : List Char) :
    unescape (s.flatMap escape ++ '"' :: rest) = s := by
  induction s with
  | nil => rfl
  | cons c s ih =>
      rw [List.flatMap_cons, List.append_assoc]
      obtain rfl | rfl | rfl | rfl | ⟨hslash, hquote, -, -, hescape⟩ := escape_cases c
      · exact congrArg _ ih
      · exact congrArg _ ih
      · exact congrArg _ ih
      · exact congrArg _ ih
      · rw [hescape, List.singleton_append, unescape_plain hslash hquote, ih]

/-- A value that is written without quotes does not begin with one. -/
theorem decode_plain {s : List Char} (h : s.any needsQuotes = false) : decode s = s := by
  cases s with
  | nil => rfl
  | cons c s =>
      have hquote : c ≠ '"' := by
        rintro rfl
        cases h
      rw [decode]
      exact fun rest heq => hquote (List.cons.inj heq).1

theorem decode_encode (s : List Char) : decode (encode s) = s := by
  rw [encode]
  split
  · exact unescape_escape s []
  · next hplain => exact decode_plain (by simpa using hplain)

end Value

/-- No line ends within a text. -/
def Unbroken (s : List Char) : Prop := ∀ c ∈ s, c ≠ '\n' ∧ c ≠ '\r'

instance (s : List Char) : Decidable (Unbroken s) :=
  decidable_of_iff _ (List.all_iff_forall_prop (p := fun c => c ≠ '\n' ∧ c ≠ '\r'))

theorem Unbroken.append {s t : List Char} (hs : Unbroken s) (ht : Unbroken t) :
    Unbroken (s ++ t) := fun c hc => (List.mem_append.1 hc).elim (hs c) (ht c)

theorem Value.unbroken_escape (c : Char) : Unbroken (escape c) := by
  obtain rfl | rfl | rfl | rfl | ⟨-, -, hfeed, hreturn, hescape⟩ := escape_cases c
  · decide
  · decide
  · decide
  · decide
  · rw [hescape]
    exact List.forall_mem_singleton.2 ⟨hfeed, hreturn⟩

theorem Value.unbroken_encode (s : List Char) : Unbroken (encode s) := by
  rw [encode]
  split
  · have hescaped : Unbroken (s.flatMap escape) := by
      intro d hd
      obtain ⟨c, -, hd⟩ := List.mem_flatMap.1 hd
      exact unbroken_escape c d hd
    have hquote : Unbroken ['"'] := by decide
    exact hquote.append (hescaped.append hquote)
  · next hplain =>
      have hplain : ∀ c ∈ s, needsQuotes c = false := by simpa using hplain
      have hbreaks : needsQuotes '\n' = true ∧ needsQuotes '\r' = true := by decide
      intro c hc
      constructor <;> rintro rfl
      · exact absurd ((hplain _ hc).symm.trans hbreaks.1) nofun
      · exact absurd ((hplain _ hc).symm.trans hbreaks.2) nofun

/-! ## Lines -/

/-- A text that is one line with its end. -/
def IsLine (s : List Char) : Prop := ∃ body, s = body ++ ['\n'] ∧ Unbroken body

theorem IsName.unbroken {name : String} (h : IsName name) :
    Unbroken name.toList ∧ '=' ∉ name.toList := by
  have hall : ∀ c ∈ nameAlphabet, (c ≠ '\n' ∧ c ≠ '\r') ∧ c ≠ '=' :=
    List.all_iff_forall_prop.1 (by decide)
  exact ⟨fun c hc => (hall c (h.chars.1 c hc)).1, fun hc => (hall _ (h.chars.1 _ hc)).2 rfl⟩

/-- In a name no letter has a lower case that depends on the letters around it. -/
theorem lowerAfter_name {s : List Char} (h : ∀ c ∈ s, c ∈ nameAlphabet) :
    ∀ before, Text.lowerAfter before s = s.map Text.lower := by
  have hplain : ∀ c ∈ nameAlphabet, (c == '\u03a3') = false ∧ (c == '\u0130') = false :=
    List.all_iff_forall_prop.1 (by decide)
  induction s with
  | nil => intro before; rfl
  | cons c s ih =>
      intro before
      rw [List.forall_mem_cons] at h
      rw [Text.lowerAfter, (hplain c h.1).1, (hplain c h.1).2, ih h.2]
      rfl

theorem isLine_exampleLine {name : String} (h : IsName name) : IsLine (exampleLine name) := by
  have hlower : Unbroken (Text.lowerText name).toList := by
    have hall : ∀ c ∈ nameAlphabet, Text.lower c ≠ '\n' ∧ Text.lower c ≠ '\r' :=
      List.all_iff_forall_prop.1 (by decide)
    rw [Text.lowerText, String.toList_ofList, lowerAfter_name h.chars.1]
    intro d hd
    obtain ⟨c, hc, rfl⟩ := List.mem_map.1 hd
    exact hall c (h.chars.1 c hc)
  have hbetween : Unbroken "=your_".toList ∧ Unbroken "_here".toList := by decide
  refine ⟨name.toList ++ "=your_".toList ++ (Text.lowerText name).toList ++ "_here".toList, ?_,
    ((h.unbroken.1.append hbetween.1).append hlower).append hbetween.2⟩
  rw [exampleLine, List.append_assoc _ "_here".toList]
  rfl

end SecretScan.Env

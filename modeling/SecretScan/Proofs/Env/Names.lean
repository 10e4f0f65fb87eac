import SecretScan.Env.Mapping
import Mathlib.Data.Bool.AllAny

/-!
# What names of variables look like

Every variable that a mapping gives out has the base name of some rule, with a number or
without one. So a name consists of capital letters, digits and underscores.
-/

namespace SecretScan.Env

/-- A name of a variable: a base name, with a number or without one. -/
def IsName (name : String) : Prop := ∃ rule index, name = numbered (baseName rule) index

theorem firstFree_isName (taken : List String) (rule : String) : ∀ (budget index : Nat),
    IsName (firstFree taken (baseName rule) index budget) := by
  intro budget
  induction budget with
  | zero => intro index; exact ⟨rule, index, rfl⟩
  | succ budget ih =>
      intro index
      rw [firstFree]
      split
      · exact ih (index + 1)
      · exact ⟨rule, index, rfl⟩

namespace Mapping

/-- A mapping that gives out names of variables only. -/
def Named (m : Mapping) : Prop := ∀ x ∈ m.byKey, IsName x.2.name

theorem Named.add {m : Mapping} (h : m.Named) (pool : NamePool) (f : Finding) :
    (m.add pool f).2.1.Named := by
  rw [Mapping.add]
  split
  · exact h
  · intro x hx
    rcases List.mem_append.1 hx with hx | hx
    · exact h x hx
    · rw [List.mem_singleton.1 hx]
      exact firstFree_isName _ _ _ _

theorem Named.extend {findings : List Finding} : ∀ {m : Mapping} (_ : m.Named) (pool : NamePool),
    (m.extend pool findings).Named := by
  induction findings with
  | nil => intro m h pool; exact h
  | cons f findings ih =>
      intro m h pool
      rw [Mapping.extend]
      exact ih (h.add pool f) _

theorem ofFindings_named (findings : List Finding) : (ofFindings findings).Named :=
  Named.extend (by simp [Named]) _

theorem Named.of_name? {m : Mapping} (h : m.Named) {f : Finding} {name : String}
    (hname : m.name? f = some name) : IsName name := by
  obtain ⟨e, he, rfl⟩ := Option.map_eq_some_iff.1 hname
  obtain ⟨l, l', hl, -⟩ := List.lookup_eq_some_iff.1 he
  exact h (f.key, e) (by rw [hl]; simp)

end Mapping

/-! ## The characters of a name -/

/-- The characters of which names consist. -/
def nameAlphabet : List Char := "ABCDEFGHIJKLMNOPQRSTUVWXYZ0123456789_".toList

/-- Every `A` of a text is followed by another letter than `K`. -/
def isCalm : List Char → Bool
  | [] => true
  | [c] => c != 'A'
  | c :: d :: rest => (c != 'A' || d != 'K') && isCalm (d :: rest)

theorem isCalm_append {x y : List Char} (hx : isCalm x = true) (hy : isCalm y = true) :
    isCalm (x ++ y) = true := by
  induction x with
  | nil => exact hy
  | cons c x ih =>
      cases x with
      | nil =>
          cases y with
          | nil => exact hx
          | cons d y =>
              have hc : (c != 'A') = true := hx
              rw [List.singleton_append, isCalm, hc, Bool.true_or, Bool.true_and]
              exact hy
      | cons d x =>
          rw [isCalm, Bool.and_eq_true] at hx
          rw [List.cons_append, List.cons_append, isCalm, hx.1, Bool.true_and]
          exact ih hx.2

theorem isCalm_of_forall {x : List Char} (h : ∀ c ∈ x, c ≠ 'A') : isCalm x = true := by
  induction x with
  | nil => rfl
  | cons c x ih =>
      have hc : (c != 'A') = true := by simpa using h c List.mem_cons_self
      have hx := ih fun d hd => h d (List.mem_cons_of_mem c hd)
      exact isCalm_append (show isCalm [c] = true from hc) hx

theorem baseName_mem (rule : String) : baseName rule ∈ defaultName :: baseNames.map (·.2) := by
  rw [baseName]
  cases h : baseNames.lookup rule with
  | none => exact List.mem_cons_self
  | some base =>
      obtain ⟨l, l', hl, -⟩ := List.lookup_eq_some_iff.1 h
      refine List.mem_cons_of_mem _ (List.mem_map.2 ⟨(rule, base), ?_, rfl⟩)
      rw [hl]
      simp

/-- A base name consists of the characters of names, and no `A` in it is the last letter or
followed by a `K`. -/
theorem baseName_chars (rule : String) :
    (∀ c ∈ (baseName rule).toList, c ∈ nameAlphabet) ∧ isCalm (baseName rule).toList = true := by
  have hall : ∀ base ∈ defaultName :: baseNames.map (·.2),
      base.toList ⊆ nameAlphabet ∧ isCalm base.toList = true := by
    decide +kernel
  exact hall _ (baseName_mem rule)

theorem digit_mem {c : Char} (h : c.isDigit = true) : c ∈ "0123456789".toList := by
  rw [Char.isDigit, Bool.and_eq_true, decide_eq_true_eq, decide_eq_true_eq] at h
  have hlo : 48 ≤ c.toNat := h.1
  have hhi : c.toNat ≤ 57 := h.2
  have hall : ∀ n ∈ List.range' 48 10, Char.ofNat n ∈ "0123456789".toList := by decide
  rw [← Char.ofNat_toNat c]
  exact hall _ (List.mem_range'_1.2 ⟨hlo, by omega⟩)

theorem toString_digits (n : Nat) : ∀ c ∈ (toString n).toList, c ∈ "0123456789".toList := by
  intro c hc
  rw [Nat.toString_eq_repr, Nat.toList_repr] at hc
  exact digit_mem (Nat.isDigit_of_mem_toDigits (by decide) (by decide) hc)

theorem IsName.chars {name : String} (h : IsName name) :
    (∀ c ∈ name.toList, c ∈ nameAlphabet) ∧ isCalm name.toList = true := by
  obtain ⟨rule, index, rfl⟩ := h
  obtain ⟨hbase, hcalm⟩ := baseName_chars rule
  cases index with
  | zero => exact ⟨hbase, hcalm⟩
  | succ index =>
      have hdigits := toString_digits (index + 1)
      have hdigits' : ∀ c ∈ "0123456789".toList, c ∈ nameAlphabet ∧ c ≠ 'A' :=
        List.all_iff_forall_prop.1 (by decide)
      rw [numbered, String.toList_append, String.toList_append]
      constructor
      · intro c hc
        rcases List.mem_append.1 hc with hc | hc
        · rcases List.mem_append.1 hc with hc | hc
          · exact hbase c hc
          · rw [List.mem_singleton.1 hc]
            decide
        · exact (hdigits' c (hdigits c hc)).1
      · refine isCalm_append (isCalm_append hcalm (by decide)) (isCalm_of_forall ?_)
        intro c hc
        exact (hdigits' c (hdigits c hc)).2

end SecretScan.Env

import Mathlib.Data.List.TakeWhile
import SecretScan.FilePath
import SecretScan.Proofs.Text.Search

/-!
# Paths as they are written

A slash keeps the names before it apart from those behind it (`namesOf_slash`). A path in its
normal form is written with the names that it has, so reading what was written gives the path
back (`ofString_toString`), and what is added to the end of a written path goes to the end of
its last name.
-/

namespace SecretScan.FilePath

/-- A name that is kept where a path is read. -/
structure IsName (name : String) : Prop where
  ne_empty : name ≠ ""
  ne_here : name ≠ "."
  slashless : '/' ∉ name.toList

/-- The name of an entry of a directory. -/
structure IsEntry (name : String) : Prop extends IsName name where
  ne_up : name ≠ ".."

theorem isEntry_iff (name : String) :
    IsEntry name ↔ name ≠ "" ∧ name ≠ "." ∧ name ≠ ".." ∧ '/' ∉ name.toList :=
  ⟨fun h => ⟨h.ne_empty, h.ne_here, h.ne_up, h.slashless⟩, fun h => ⟨⟨h.1, h.2.1, h.2.2.2⟩, h.2.2.1⟩⟩

instance (name : String) : Decidable (IsEntry name) := decidable_of_iff' _ (isEntry_iff name)

/-- A path that has a root that is written and names that are kept. -/
structure Normal (p : FilePath) : Prop where
  root : p.root = "" ∨ p.root = "/" ∨ p.root = "//"
  names : ∀ name ∈ p.names, IsName name

/-! ## Reading a path -/

theorem namesOf_slash (s t : List Char) : namesOf (s ++ '/' :: t) = namesOf s ++ namesOf t := by
  rw [namesOf, Text.splitAt_append_sep, List.map_append, List.filter_append]
  rfl

theorem namesOf_name {name : String} (h : IsName name) : namesOf name.toList = [name] := by
  rw [namesOf, Text.splitAt_single h.slashless]
  simp [h.ne_empty, h.ne_here]

theorem isName_of_mem {s : List Char} {name : String} (h : name ∈ namesOf s) : IsName name := by
  rw [namesOf, List.mem_filter, List.mem_map] at h
  obtain ⟨⟨part, hpart, rfl⟩, h⟩ := h
  simp only [Bool.and_eq_true, decide_eq_true_eq] at h
  exact ⟨h.1, h.2, by rw [String.toList_ofList]; exact Text.not_mem_of_mem_splitAt hpart⟩

theorem rootOf_cases (s : List Char) : rootOf s = "" ∨ rootOf s = "/" ∨ rootOf s = "//" := by
  fun_cases rootOf s <;> simp

theorem normal_ofString (s : String) : (ofString s).Normal :=
  ⟨rootOf_cases s.toList, fun _ => isName_of_mem⟩

theorem takeWhile_slash {s : List Char} (h : ∀ t, s = '/' :: t → False) :
    s.takeWhile (· == '/') = [] := by
  cases s with
  | nil => rfl
  | cons c s => exact List.takeWhile_cons_of_neg fun hc => h s (by rw [eq_of_beq hc])

/-- Only the slashes at the front have a say in the root. -/
theorem rootOf_takeWhile (s : List Char) : rootOf (s.takeWhile (· == '/')) = rootOf s := by
  fun_cases rootOf s with
  | case1 s => rfl
  | case2 s h =>
      have hs := takeWhile_slash h
      simp [hs, rootOf]
  | case3 s h h' =>
      have hs := takeWhile_slash h'
      simp [hs, rootOf]
  | case4 s h h' h'' => rw [takeWhile_slash h'']; rfl

/-- What does not lengthen the slashes at the front has no say in the root. -/
theorem rootOf_append {s t : List Char}
    (h : (∃ c, s.getLast? = some c ∧ c ≠ '/') ∨ ∀ u, t = '/' :: u → False) :
    rootOf (s ++ t) = rootOf s := by
  rw [← rootOf_takeWhile (s ++ t), ← rootOf_takeWhile s, List.takeWhile_append]
  split
  · next hall =>
      have hs : s.takeWhile (· == '/') = s := (List.takeWhile_prefix _).eq_of_length hall
      rcases h with ⟨c, hc, hne⟩ | h
      · exact absurd (eq_of_beq (List.takeWhile_eq_self_iff.1 hs c (List.mem_of_getLast? hc))) hne
      · rw [takeWhile_slash h, List.append_nil, hs]
  · rfl

/-! ## Writing a path and reading it -/

theorem toList_join_cons (a b : String) (names : List String) :
    (Text.join "/" (a :: b :: names)).toList =
      a.toList ++ '/' :: (Text.join "/" (b :: names)).toList := by
  simp [Text.join]

theorem namesOf_join {names : List String} (h : ∀ name ∈ names, IsName name) :
    namesOf (Text.join "/" names).toList = names := by
  induction names with
  | nil => rfl
  | cons name names ih =>
      rw [List.forall_mem_cons] at h
      cases names with
      | nil => exact namesOf_name h.1
      | cons other names =>
          rw [toList_join_cons, namesOf_slash, namesOf_name h.1, ih h.2]
          rfl

theorem IsName.head {name : String} (h : IsName name) (s t : List Char) :
    name.toList ++ s = '/' :: t → False := by
  intro heq
  cases hs : name.toList with
  | nil => exact h.ne_empty (String.toList_eq_nil_iff.1 hs)
  | cons c rest =>
      rw [hs, List.cons_append, List.cons.injEq] at heq
      exact h.slashless (by rw [hs, heq.1]; exact List.mem_cons_self)

theorem join_head {names : List String} (h : ∀ name ∈ names, IsName name) (t : List Char) :
    (Text.join "/" names).toList = '/' :: t → False := by
  intro heq
  cases names with
  | nil => cases heq
  | cons name names =>
      have hname := (List.forall_mem_cons.1 h).1
      cases names with
      | nil => exact hname.head [] t (by rw [List.append_nil]; exact heq)
      | cons other names => exact hname.head _ t ((toList_join_cons ..).symm.trans heq)

theorem ofString_toString {p : FilePath} (h : p.Normal) : ofString p.toString = p := by
  obtain ⟨root, names⟩ := p
  obtain ⟨hroot, hnames⟩ := h
  rw [toString]
  split
  · next hempty =>
      simp only [Bool.and_eq_true, decide_eq_true_eq, List.isEmpty_iff] at hempty
      obtain ⟨rfl, rfl⟩ := hempty
      rfl
  · have hrootOf : rootOf (root.toList ++ (Text.join "/" names).toList) = root := by
      rw [rootOf_append (Or.inr (join_head hnames))]
      rcases hroot with rfl | rfl | rfl <;> rfl
    have hread : namesOf (root.toList ++ (Text.join "/" names).toList) = names := by
      rcases hroot with rfl | rfl | rfl
      · exact namesOf_join hnames
      · exact (namesOf_slash [] _).trans (namesOf_join hnames)
      · exact (namesOf_slash ['/'] _).trans (namesOf_join hnames)
    rw [ofString, String.toList_append, hrootOf, hread]

/-! ## The last name -/

/-- A name seen from a path. -/
theorem join_name (p : FilePath) {name : String} (h : IsName name) :
    p.join (ofString name) = ⟨p.root, p.names ++ [name]⟩ := by
  have hroot : rootOf name.toList = "" := by
    rw [← rootOf_takeWhile, takeWhile_slash fun t heq =>
      h.head [] t (by rw [List.append_nil, heq])]
    rfl
  rw [join, ofString, isAbsolute, hroot, namesOf_name h]
  rfl

theorem join_concat {names : List String} (h : names ≠ []) (name : String) :
    Text.join "/" (names ++ [name]) = Text.join "/" names ++ "/" ++ name := by
  induction names with
  | nil => exact absurd rfl h
  | cons first names ih =>
      cases names with
      | nil => rfl
      | cons second names =>
          simp only [List.cons_append, Text.join, String.append_assoc] at ih ⊢
          rw [ih (List.cons_ne_nil second names)]

/-- Behind a path that has a name, another name stands behind a slash. -/
theorem toList_concat (root : String) {names : List String} (h : names ≠ []) (name : String) :
    (toString ⟨root, names ++ [name]⟩).toList =
      (toString ⟨root, names⟩).toList ++ '/' :: name.toList := by
  rw [toString, toString, if_neg (by simp), if_neg (by simp [h]), join_concat h]
  simp

/-- What is added to the end of a written path goes to the end of its last name. -/
theorem toString_concat (root : String) (names : List String) (name s : String) :
    toString ⟨root, names ++ [name ++ s]⟩ = toString ⟨root, names ++ [name]⟩ ++ s := by
  have hjoin : ∀ names : List String,
      Text.join "/" (names ++ [name ++ s]) = Text.join "/" (names ++ [name]) ++ s := by
    intro names
    induction names with
    | nil => rfl
    | cons first names ih =>
        cases names with
        | nil => simp [Text.join, String.append_assoc]
        | cons second names =>
            simp only [List.cons_append, Text.join, String.append_assoc] at ih ⊢
            rw [ih]
  rw [toString, toString, if_neg (by simp), if_neg (by simp), hjoin, String.append_assoc]

end SecretScan.FilePath

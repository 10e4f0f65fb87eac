import SecretScan.Proofs.FilePath
import SecretScan.Proofs.Files.Disk

/-!
# Where written paths lead

A written path leads where the names of its normal form lead (`place_eq_names`), so two
spellings with one normal form are the same place. A text that is added to the end of a path
goes to its last name; if the text is not only dots, that name is the name of an entry, and the
two places differ.
-/

namespace SecretScan.Files.Disk

open FilePath (IsName IsEntry Normal)

/-- Where a path with a root starts. -/
def start (d : Disk) (root : String) : List String := if root = "" then d.here else []

theorem resolve_append (place names names' : List String) :
    resolve place (names ++ names') = resolve (resolve place names) names' := List.foldl_append

/-- What is dropped where a path is read leads nowhere. -/
theorem resolve_filter (place names : List String) :
    resolve place (names.filter fun n => n ≠ "" && n ≠ ".") = resolve place names := by
  induction names generalizing place with
  | nil => rfl
  | cons name names ih =>
      rw [List.filter_cons]
      split
      · exact ih (step place name)
      · next hdrop =>
          have hstep : step place name = place := by
            rw [step, if_pos (by simpa [Classical.or_iff_not_imp_left] using hdrop)]
          rw [ih, resolve, resolve, List.foldl_cons, hstep]

theorem rootOf_eq_empty_iff (s : List Char) : FilePath.rootOf s = "" ↔ s.head? ≠ some '/' := by
  fun_cases FilePath.rootOf s with
  | case4 s h h' h'' =>
      simp only [true_iff]
      intro hhead
      obtain ⟨t, rfl⟩ := List.head?_eq_some_iff.1 hhead
      exact h'' t rfl
  | _ => simp

theorem place_eq_names (d : Disk) (path : String) : d.place path =
    resolve (d.start (FilePath.ofString path).root) (FilePath.ofString path).names := by
  rw [place, FilePath.ofString, FilePath.namesOf, resolve_filter, start]
  congr 1
  by_cases h : path.toList.head? = some '/'
  · rw [if_pos h, if_neg fun hroot => (rootOf_eq_empty_iff _).1 hroot h]
  · rw [if_neg h, if_pos ((rootOf_eq_empty_iff _).2 h)]

theorem place_toString (d : Disk) {p : FilePath} (h : p.Normal) :
    d.place p.toString = resolve (d.start p.root) p.names := by
  rw [place_eq_names, FilePath.ofString_toString h]

theorem step_entry {name : String} (h : IsEntry name) (place : List String) :
    step place name = place ++ [name] := by
  rw [step, if_neg (by simp [h.ne_empty, h.ne_here]), if_neg h.ne_up]

/-- Names of entries lead further and further down. -/
theorem resolve_entries {names : List String} (h : ∀ name ∈ names, IsEntry name)
    (place : List String) : resolve place names = place ++ names := by
  induction names generalizing place with
  | nil => rw [List.append_nil]; rfl
  | cons name names ih =>
      rw [List.forall_mem_cons] at h
      rw [resolve, List.foldl_cons, step_entry h.1]
      exact (ih h.2 _).trans (List.append_assoc ..)

theorem place_below (d : Disk) {p : FilePath} (hp : p.Normal) {names : List String}
    (h : ∀ name ∈ names, IsEntry name) :
    d.place (FilePath.toString ⟨p.root, p.names ++ names⟩) = d.place p.toString ++ names := by
  have hnormal : Normal ⟨p.root, p.names ++ names⟩ := by
    refine ⟨hp.root, fun name hname => ?_⟩
    obtain hname | hname := List.mem_append.1 hname
    · exact hp.names name hname
    · exact (h name hname).toIsName
  rw [d.place_toString hnormal, d.place_toString hp, resolve_append, resolve_entries h]

/-! ## Entries of a directory -/

theorem follow_concat {tree : Node} {name : String}
    (hshort : (Text.encodeUtf8 name.toList).length ≤ nameLimit) :
    ∀ {names place place' : List String}, follow tree place names = .ok place' →
      tree.HasDirectory place' → follow tree place (names ++ [name]) = .ok (step place' name) := by
  intro names
  induction names with
  | nil =>
      intro place place' h hdir
      cases h
      exact follow_cons.2 ⟨hdir, hshort, rfl⟩
  | cons first names ih =>
      intro place place' h hdir
      obtain ⟨hfirst, hlength, h⟩ := follow_cons.1 h
      exact follow_cons.2 ⟨hfirst, hlength, ih h hdir⟩

theorem locate_behind {d : Disk} {path name : String} {place : List String}
    (h : d.locate path = .ok place) (hdir : d.tree.HasDirectory place) (hname : IsEntry name)
    (hshort : (Text.encodeUtf8 name.toList).length ≤ nameLimit) {whole : String}
    (hwhole : whole.toList = path.toList ++ '/' :: name.toList) :
    d.locate whole = .ok (place ++ [name]) := by
  rw [locate] at h
  split at h
  · cases h
  · next hne =>
      have hpath : path.toList ≠ [] := fun heq => hne (String.toList_eq_nil_iff.1 heq)
      have hne' : whole ≠ "" := by
        rw [ne_eq, ← String.toList_eq_nil_iff, hwhole]
        simp
      rw [locate, if_neg hne', hwhole, Text.splitAt_append_sep, Text.splitAt_single hname.slashless,
        List.map_append, List.map_singleton, String.ofList_toList, List.head?_append,
        List.head?_eq_some_head hpath, Option.some_or]
      rw [List.head?_eq_some_head hpath] at h
      exact (follow_concat hshort h hdir).trans (congrArg Except.ok (step_entry hname place))

theorem locate_start {d : Disk} {root name : String} (hroot : root = "" ∨ root = "/" ∨ root = "//")
    (hdir : d.tree.HasDirectory (d.start root)) (hname : IsEntry name)
    (hshort : (Text.encodeUtf8 name.toList).length ≤ nameLimit) :
    d.locate (root ++ name) = .ok (d.start root ++ [name]) := by
  have hlast : follow d.tree (d.start root) [name] = .ok (d.start root ++ [name]) :=
    follow_cons.2 ⟨hdir, hshort, congrArg Except.ok (step_entry hname _)⟩
  have hblank : follow d.tree (d.start root) ["", name] = .ok (d.start root ++ [name]) :=
    follow_cons.2 ⟨hdir, by decide, hlast⟩
  have hsplit : Text.splitAt '/' name.toList = [name.toList] := Text.splitAt_single hname.slashless
  have hne : root ++ name ≠ "" := fun heq => hname.ne_empty (String.append_eq_empty_iff.1 heq).2
  rw [locate, if_neg hne, String.toList_append]
  rcases hroot with rfl | rfl | rfl
  · have hhead : name.toList.head? ≠ some '/' := fun heq =>
      hname.slashless (List.mem_of_mem_head? heq)
    simpa [hhead, hsplit, start] using hlast
  · simpa [hsplit, start] using hblank
  · have htwice : follow d.tree (d.start "//") ["", "", name] = .ok (d.start "//" ++ [name]) :=
      follow_cons.2 ⟨hdir, by decide, hblank⟩
    simpa [hsplit, start] using htwice

/-- The name of an entry leads into a directory that is there. -/
theorem locate_entry {d : Disk} {p : FilePath} (hp : p.Normal) {place : List String}
    (h : d.locate p.toString = .ok place) (hdir : d.tree.HasDirectory place) {name : String}
    (hname : IsEntry name) (hshort : (Text.encodeUtf8 name.toList).length ≤ nameLimit) :
    d.locate (p.join (FilePath.ofString name)).toString = .ok (place ++ [name]) := by
  rw [FilePath.join_name p hname.toIsName]
  obtain ⟨root, names⟩ := p
  by_cases hnames : names = []
  · subst hnames
    obtain rfl : place = d.start root := (locate_eq_place h).trans (d.place_toString hp)
    have hwhole : FilePath.toString ⟨root, [] ++ [name]⟩ = root ++ name := by
      simp [FilePath.toString, Text.join]
    rw [hwhole]
    exact locate_start hp.root hdir hname hshort
  · exact locate_behind h hdir hname hshort (FilePath.toList_concat root hnames name)

/-! ## Paths to which something is added -/

/-- A text that makes any name to which it is added the name of an entry. -/
def IsEnding (s : String) : Prop := '/' ∉ s.toList ∧ s.toList.any (· != '.') = true

instance (s : String) : Decidable (IsEnding s) := inferInstanceAs (Decidable (_ ∧ _))

theorem step_cases (place : List String) (name : String) :
    step place name = place ∨ step place name = place.dropLast ∨ step place name = place ++ [name] := by
  rw [step]
  split
  · exact Or.inl rfl
  · split
    · exact Or.inr (Or.inl rfl)
    · exact Or.inr (Or.inr rfl)

theorem IsEnding.not_dots {s : String} (h : IsEnding s) : ∃ c ∈ s.toList, c ≠ '.' := by
  simpa using h.2

theorem IsEnding.append_ne {s : String} (h : IsEnding s) (name : String) {other : String}
    (hother : other ∈ ["", ".", ".."]) : name ++ s ≠ other := by
  obtain ⟨c, hc, hdot⟩ := h.not_dots
  have hall : ∀ other ∈ ["", ".", ".."], other.toList.all (· == '.') = true := by decide
  intro heq
  refine hdot (eq_of_beq (List.all_eq_true.1 (hall other hother) c ?_))
  rw [← heq, String.toList_append]
  exact List.mem_append_right _ hc

theorem IsEnding.isEntry {s name : String} (h : IsEnding s) (hname : IsName name) :
    IsEntry (name ++ s) := by
  refine ⟨⟨h.append_ne name (by simp), h.append_ne name (by simp), ?_⟩, h.append_ne name (by simp)⟩
  rw [String.toList_append, List.mem_append, not_or]
  exact ⟨hname.slashless, h.1⟩

theorem IsEnding.step {s : String} (h : IsEnding s) (place : List String) (name : String) :
    step place (name ++ s) = place ++ [name ++ s] := by
  have hempty : name ++ s ≠ "" := h.append_ne name (by simp)
  have hhere : name ++ s ≠ "." := h.append_ne name (by simp)
  have hup : name ++ s ≠ ".." := h.append_ne name (by simp)
  rw [Disk.step, if_neg (by simp [hempty, hhere]), if_neg hup]

/-- A text that is added to the path of an entry is added to the name of the entry. -/
theorem toString_append (p : FilePath) {names : List String} (hne : names ≠ [])
    (hnames : ∀ name ∈ names, IsEntry name) {s : String} (hs : IsEnding s) :
    ∃ front last, IsEntry last ∧ (∀ name ∈ front ++ [last ++ s], IsEntry name) ∧
      FilePath.toString ⟨p.root, p.names ++ names⟩ ++ s =
        FilePath.toString ⟨p.root, p.names ++ (front ++ [last ++ s])⟩ := by
  obtain rfl | ⟨front, last, rfl⟩ := List.eq_nil_or_concat names
  · exact absurd rfl hne
  rw [List.concat_eq_append] at hnames ⊢
  have hlast : IsEntry last := hnames last (List.mem_append_right _ (List.mem_singleton_self _))
  refine ⟨front, last, hlast, ?_, ?_⟩
  · intro name hname
    obtain hname | hname := List.mem_append.1 hname
    · exact hnames name (List.mem_append_left _ hname)
    · rw [List.mem_singleton.1 hname]
      exact hs.isEntry hlast.toIsName
  · rw [← List.append_assoc, ← List.append_assoc, FilePath.toString_concat]

/-- A text that is added to the end of a path is added to its last name. -/
theorem ofString_append {s : String} (hs : IsEnding s) (path : String) : ∃ root names last,
    FilePath.ofString (path ++ s) = ⟨root, names ++ [last ++ s]⟩ := by
  obtain ⟨parts, part, hparts⟩ := Text.splitAt_concat '/' path.toList
  have hlast : String.ofList (part ++ s.toList) = String.ofList part ++ s := by
    rw [String.ofList_append, String.ofList_toList]
  have hempty : String.ofList part ++ s ≠ "" := hs.append_ne _ (by simp)
  have hhere : String.ofList part ++ s ≠ "." := hs.append_ne _ (by simp)
  refine ⟨FilePath.rootOf (path ++ s).toList,
    (parts.map String.ofList).filter fun n => n ≠ "" && n ≠ ".", String.ofList part, ?_⟩
  rw [FilePath.ofString, FilePath.namesOf, String.toList_append, hparts _ hs.1, List.map_append,
    List.filter_append, List.map_singleton, hlast, List.filter_cons_of_pos (by simp [hempty, hhere])]
  rfl

variable (d : Disk)

theorem place_append (path : String) : ∃ dir last, d.place path = step dir last ∧
    ∀ s, IsEnding s → d.place (path ++ s) = dir ++ [last ++ s] := by
  obtain ⟨parts, part, hparts⟩ := Text.splitAt_concat '/' path.toList
  refine ⟨resolve (if path.toList.head? = some '/' then [] else d.here)
    (parts.map String.ofList), String.ofList part, ?_, fun s hs => ?_⟩
  · have h := hparts [] List.not_mem_nil
    rw [List.append_nil, List.append_nil] at h
    rw [place, h, List.map_append, resolve_append]
    rfl
  · have hstart : (path ++ s).toList.head? = some '/' ↔ path.toList.head? = some '/' := by
      rw [String.toList_append, List.head?_append]
      cases path.toList with
      | nil =>
          simp only [List.head?_nil, Option.none_or, reduceCtorEq, iff_false]
          exact fun hhead => hs.1 (List.mem_of_mem_head? hhead)
      | cons c rest => rfl
    have hlast : String.ofList part ++ s = String.ofList (part ++ s.toList) := by
      rw [String.ofList_append, String.ofList_toList]
    rw [← hs.step, hlast]
    simp only [place, hstart]
    rw [String.toList_append, hparts _ hs.1, List.map_append, resolve_append]
    rfl

theorem place_ne_append {s : String} (hs : IsEnding s) (path : String) :
    d.place path ≠ d.place (path ++ s) := by
  obtain ⟨dir, last, h, h'⟩ := d.place_append path
  rw [h, h' s hs]
  intro heq
  rcases step_cases dir last with hstep | hstep | hstep
  · have hlength := congrArg List.length (hstep.symm.trans heq)
    rw [List.length_append, List.length_singleton] at hlength
    omega
  · have hlength := congrArg List.length (hstep.symm.trans heq)
    rw [List.length_append, List.length_singleton, List.length_dropLast] at hlength
    omega
  · have hlast : last = last ++ s := by
      simpa using List.append_cancel_left (hstep.symm.trans heq)
    obtain ⟨c, hc, -⟩ := hs.not_dots
    rw [String.append_eq_left_iff.1 hlast.symm] at hc
    exact absurd hc List.not_mem_nil

theorem place_eq_of_append {s : String} (hs : IsEnding s) {path path' : String}
    (h : d.place (path ++ s) = d.place (path' ++ s)) : d.place path = d.place path' := by
  obtain ⟨dir, last, hplace, happend⟩ := d.place_append path
  obtain ⟨dir', last', hplace', happend'⟩ := d.place_append path'
  rw [happend s hs, happend' s hs] at h
  obtain ⟨rfl, hlast⟩ := List.append_inj' h rfl
  rw [List.singleton_inj] at hlast
  rw [hplace, hplace', (String.append_left_inj s).1 hlast]

/-- Of one path, different endings make different places. -/
theorem place_append_inj {s s' : String} (hs : IsEnding s) (hs' : IsEnding s') {path : String}
    (h : d.place (path ++ s) = d.place (path ++ s')) : s = s' := by
  obtain ⟨dir, last, -, happend⟩ := d.place_append path
  rw [happend s hs, happend s' hs', List.append_cancel_left_eq, List.singleton_inj] at h
  exact (String.append_right_inj last).1 h

theorem place_append_ne {s s' : String} (hs : IsEnding s) (hs' : IsEnding s')
    (hlast : s.toList.getLast? ≠ s'.toList.getLast?) (path path' : String) :
    d.place (path ++ s) ≠ d.place (path' ++ s') := by
  obtain ⟨dir, last, -, h⟩ := d.place_append path
  obtain ⟨dir', last', -, h'⟩ := d.place_append path'
  rw [h s hs, h' s' hs']
  intro heq
  have hname := congrArg String.toList (List.singleton_inj.1 (List.append_inj_right' heq rfl))
  have hget : ∀ name {s : String}, IsEnding s →
      (name ++ s).toList.getLast? = s.toList.getLast? := by
    intro name s hs
    obtain ⟨c, hc, -⟩ := hs.not_dots
    rw [String.toList_append, List.getLast?_append,
      List.getLast?_eq_some_getLast (List.ne_nil_of_mem hc)]
    rfl
  exact hlast (by rw [← hget last hs, hname, hget last' hs'])

end SecretScan.Files.Disk

import SecretScan.Pattern.Build
import SecretScan.Pattern.Match

/-!
# The ways to match, as a list

`Pattern.run` hands the ways to match a pattern to a continuation, one after
another, until one is accepted. Nothing about that needs the continuation to be
there: the ways can be listed, the preferred one first, and a run is then a search
through the list. That is `run_eq_findSome?`, and it is what lets every later
argument speak about one list and never about continuations.

The list of a sequence is the lists of its second part, one for each way to match
the first; the list of an alternative is two lists in a row. A repetition lists its
rounds, and what a look-around or an atomic pattern needs of its body is the head
of a list.
-/

namespace SecretScan

namespace Pattern

/-- The ways to go through the rounds of a repetition, the preferred one first. -/
def rounds (body : Cursor → Marks → List (Cursor × Marks)) (greedy : Bool) :
    Nat → Nat → Option Nat → Option Nat → Cursor → Marks → List (Cursor × Marks)
  | 0, _, _, _, c, m => [(c, m)]
  | fuel + 1, least + 1, most, last, c, m =>
    (body c m).flatMap fun w =>
      rounds body greedy fuel least (most.map (· - 1)) last w.1 w.2
  | fuel + 1, 0, most, last, c, m =>
    if most = some 0 || last = some c.pos then [(c, m)]
    else
      let more := (body c m).flatMap fun w =>
        rounds body greedy fuel 0 (most.map (· - 1)) (some c.pos) w.1 w.2
      if greedy then more ++ [(c, m)] else (c, m) :: more

/-- What a condition on the surroundings lets through, given the ways to match its
body. -/
def guarded (negated : Bool) (c : Cursor) (m : Marks) (ws : List (Cursor × Marks)) :
    List (Cursor × Marks) :=
  match ws with
  | [] => if negated then [(c, m)] else []
  | w :: _ => if negated then [] else [(c, w.2)]

/-- The ways to match a pattern at a cursor, the preferred one first. -/
def ways : Pattern → Cursor → Marks → List (Cursor × Marks)
  | empty, c, m => [(c, m)]
  | one test, ⟨before, after, pos⟩, m =>
    match after with
    | [] => []
    | a :: rest => if test.holds a then [(⟨a :: before, rest, pos + 1⟩, m)] else []
  | anchor a, c, m => if a.holds c then [(c, m)] else []
  | seq p q, c, m => (ways p c m).flatMap fun w => ways q w.1 w.2
  | alt p q, c, m => ways p c m ++ ways q c m
  | times greed least most body, c, m =>
    let budget := least + c.after.length + 2
    match greed with
    | .greedy => rounds (ways body) true budget least most none c m
    | .lazy => rounds (ways body) false budget least most none c m
    | .possessive => (rounds (ways body) true budget least most none c m).take 1
  | group index body, c, m =>
    (ways body c (m.openGroup index c.pos)).map fun w =>
      (w.1, w.2.closeGroup index w.1.pos)
  | again fold index, c, m =>
    match m.span? index with
    | none => []
    | some (start, stop) =>
      if stripFolded fold (c.between start stop) c.after then [(c.forward (stop - start), m)]
      else []
  | ahead negated body, c, m => guarded negated c m (ways body c m)
  | behind negated width body, c, m =>
    match c.back? width with
    | none => guarded negated c m []
    | some b => guarded negated c m (ways body b m)
  | atomic body, c, m => (ways body c m).take 1
  | ifGroup index yes no, c, m =>
    if (m.span? index).isSome then ways yes c m else ways no c m

theorem mem_ways_seq {p q : Pattern} {c : Cursor} {m : Marks} {v w : Cursor × Marks}
    (hv : v ∈ ways p c m) (hw : w ∈ ways q v.1 v.2) : w ∈ ways (seq p q) c m := by
  rw [ways]
  exact List.mem_flatMap.2 ⟨v, hv, hw⟩

/-! ## A run searches the list -/

@[simp]
theorem findSome?_flatMap {α β γ : Type} (l : List α) (f : α → List β) (g : β → Option γ) :
    (l.flatMap f).findSome? g = l.findSome? fun a => (f a).findSome? g := by
  induction l with
  | nil => rfl
  | cons a l ih =>
      rw [List.flatMap_cons, List.findSome?_append, ih, List.findSome?_cons]
      cases (f a).findSome? g <;> rfl

@[simp]
theorem findSome?_mk_eq_head? {α β : Type} (l : List (α × β)) :
    (l.findSome? fun w => some (w.1, w.2)) = l.head? := by
  cases l <;> rfl

theorem repeated_eq_findSome? {body : Cursor → Marks → Continuation → Option (Cursor × Marks)}
    {ws : Cursor → Marks → List (Cursor × Marks)}
    (hbody : ∀ c m k, body c m k = (ws c m).findSome? fun w => k w.1 w.2) (greedy : Bool) :
    ∀ (fuel least : Nat) (most last : Option Nat) (c : Cursor) (m : Marks) (k : Continuation),
      repeated body greedy fuel least most last c m k
        = (rounds ws greedy fuel least most last c m).findSome? fun w => k w.1 w.2 := by
  intro fuel
  induction fuel with
  | zero =>
      intro least most last c m k
      rw [repeated, rounds]
      simp
  | succ fuel ih =>
      intro least most last c m k
      cases least with
      | succ least =>
          rw [repeated, rounds, hbody, findSome?_flatMap]
          simp only [ih]
      | zero =>
          rw [repeated, rounds]
          split
          · simp
          · simp only [hbody, ih]
            cases greedy with
            | true =>
                simp only [if_true, List.findSome?_append, findSome?_flatMap]
                cases (ws c m).findSome? _ <;> simp
            | false =>
                simp only [Bool.false_eq_true, if_false, List.findSome?_cons, findSome?_flatMap]
                cases k c m <;> rfl

@[simp]
theorem findSome?_take_one {α γ : Type} (l : List α) (g : α → Option γ) :
    (l.take 1).findSome? g = l.head?.bind g := by
  cases l with
  | nil => rfl
  | cons a l => cases h : g a <;> simp [h]

@[simp]
theorem findSome?_guarded (negated : Bool) (c : Cursor) (m : Marks)
    (ws : List (Cursor × Marks)) (k : Continuation) :
    (guarded negated c m ws).findSome? (fun w => k w.1 w.2) =
      match ws.head? with
      | some w => if negated then none else k c w.2
      | none => if negated then k c m else none := by
  cases ws <;> cases negated <;> simp [guarded]

/-- A run is a search through the list of ways. -/
theorem run_eq_findSome? (p : Pattern) : ∀ (c : Cursor) (m : Marks) (k : Continuation),
    run p c m k = (ways p c m).findSome? fun w => k w.1 w.2 := by
  induction p with
  | empty => intro c m k; simp [run, ways]
  | one test =>
      intro c m k
      obtain ⟨before, after, pos⟩ := c
      cases after with
      | nil => simp [run, ways]
      | cons a rest =>
          simp only [run, ways]
          split <;> simp
  | anchor a =>
      intro c m k
      simp only [run, ways]
      split <;> simp
  | seq p q ihp ihq =>
      intro c m k
      rw [run, ways, ihp, findSome?_flatMap]
      simp only [ihq]
  | alt p q ihp ihq =>
      intro c m k
      rw [run, ways, ihp, ihq, List.findSome?_append]
      cases (ways p c m).findSome? _ <;> rfl
  | times greed least most body ih =>
      intro c m k
      cases greed with
      | greedy => simp only [run, ways, repeated_eq_findSome? ih]
      | lazy => simp only [run, ways, repeated_eq_findSome? ih]
      | possessive =>
          simp only [run, ways, repeated_eq_findSome? ih, findSome?_take_one]
          rw [findSome?_mk_eq_head?]
          cases (rounds (ways body) true _ least most none c m).head? <;> rfl
  | group index body ih =>
      intro c m k
      rw [run, ways, ih, List.findSome?_map]
      rfl
  | again fold index =>
      intro c m k
      simp only [run, ways]
      cases m.span? index with
      | none => rfl
      | some span =>
          obtain ⟨start, stop⟩ := span
          simp only []
          split
          · exact List.findSome?_singleton.symm
          · rfl
  | ahead negated body ih =>
      intro c m k
      simp only [run, ways, ih, findSome?_guarded, findSome?_mk_eq_head?]
      cases (ways body c m).head? <;> rfl
  | behind negated width body ih =>
      intro c m k
      simp only [run, ways]
      cases c.back? width with
      | none => simp
      | some b =>
          simp only [ih, findSome?_guarded, findSome?_mk_eq_head?]
          cases (ways body b m).head? <;> rfl
  | atomic body ih =>
      intro c m k
      simp only [run, ways, ih, findSome?_take_one, findSome?_mk_eq_head?]
      cases (ways body c m).head? <;> rfl
  | ifGroup index yes no ihy ihn =>
      intro c m k
      simp only [run, ways]
      split
      · exact ihy c m k
      · exact ihn c m k

end Pattern

end SecretScan

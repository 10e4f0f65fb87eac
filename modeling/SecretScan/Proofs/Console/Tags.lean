import Mathlib.Data.List.Induction
import Mathlib.Data.List.TakeWhile
import SecretScan.Console.Tags
import SecretScan.Proofs.Console.Markup

/-!
# Laws of the simple console

A text falls into tags, each with the backslashes before it, and ordinary characters
(`tag_induction`). Escaping keeps what follows from making a tag of what stands before it
(`slashedTag?_escaped`); so the tags of an escaped text are those of the text, all of them
ordinary, and there is nothing in it that cannot be followed (`plainFrom?_escapeFrom`). With this
the simple console is a lawful one.
-/

namespace SecretScan.Console.Tags

/-! ## Tags -/

/-- What can stand in the brackets of a tag. -/
structure IsTag (body : List Char) : Prop where
  begins : ∃ c rest, body = c :: rest ∧ beginsTag c = true
  unopened : '[' ∉ body
  unclosed : ']' ∉ body

/-- A tag behind backslashes. -/
def slashed (slashes : Nat) (body : List Char) : List Char :=
  List.replicate slashes '\\' ++ written body

@[simp]
theorem slashed_succ (slashes : Nat) (body : List Char) :
    slashed (slashes + 1) body = '\\' :: slashed slashes body := rfl

theorem length_slashed (slashes : Nat) (body : List Char) :
    (slashed slashes body).length = slashes + body.length + 2 := by
  simp only [slashed, written, List.length_append, List.length_replicate, List.length_cons,
    List.length_nil]
  omega

theorem beginsTag_ne {c : Char} (h : beginsTag c = true) : c ≠ '[' ∧ c ≠ ']' ∧ c ≠ '\\' := by
  refine ⟨?_, ?_, ?_⟩ <;> rintro rfl <;> revert h <;> decide

theorem upToClose?_cons {c : Char} (hclose : c ≠ ']') (hopen : c ≠ '[') (s : List Char) :
    upToClose? (c :: s) = (upToClose? s).map (c :: ·) := by
  rw [upToClose?]
  · exact hclose
  · exact hopen

theorem upToClose?_append {body : List Char} (hopen : '[' ∉ body) (hclose : ']' ∉ body)
    (t : List Char) : upToClose? (body ++ ']' :: t) = some body := by
  induction body with
  | nil => rfl
  | cons c body ih =>
      rw [List.mem_cons, not_or] at hopen hclose
      rw [List.cons_append, upToClose?_cons (Ne.symm hclose.1) (Ne.symm hopen.1),
        ih hopen.2 hclose.2]
      rfl

theorem of_upToClose? {s body : List Char} (h : upToClose? s = some body) :
    '[' ∉ body ∧ ']' ∉ body ∧ ∃ t, s = body ++ ']' :: t := by
  fun_induction upToClose? s generalizing body with
  | case1 => cases h
  | case2 t =>
      cases h
      exact ⟨List.not_mem_nil, List.not_mem_nil, t, rfl⟩
  | case3 => cases h
  | case4 c s hclose hopen ih =>
      obtain ⟨rest, hrest, rfl⟩ := Option.map_eq_some_iff.1 h
      obtain ⟨hopen', hclose', t, rfl⟩ := ih hrest
      exact ⟨by simpa using ⟨fun heq => hopen heq.symm, hopen'⟩,
        by simpa using ⟨fun heq => hclose heq.symm, hclose'⟩, t, rfl⟩

/-- A bracket makes a tag of the text up to a closing bracket, if this begins like one. -/
theorem tag?_open (s : List Char) :
    tag? ('[' :: s) = if s.head?.any beginsTag then upToClose? s else none := by
  cases s with
  | nil => rfl
  | cons c s =>
      rw [tag?, List.head?_cons, Option.any_some]
      split
      · next h =>
          obtain ⟨hopen, hclose, -⟩ := beginsTag_ne h
          rw [upToClose?_cons hclose hopen]
      · rfl

theorem tag?_ne {c : Char} (h : c ≠ '[') (s : List Char) : tag? (c :: s) = none := by
  rw [tag?]
  rintro c' s' heq
  exact absurd (List.cons.inj heq).1 h

theorem tag?_eq_some {s body : List Char} :
    tag? s = some body ↔ IsTag body ∧ ∃ t, s = written body ++ t := by
  constructor
  · intro h
    cases s with
    | nil => cases h
    | cons c s =>
        obtain rfl : c = '[' := Classical.byContradiction fun hc => by
          rw [tag?_ne hc] at h
          cases h
        rw [tag?_open] at h
        split at h
        · next hbegins =>
            obtain ⟨hopen, hclose, t, rfl⟩ := of_upToClose? h
            refine ⟨⟨?_, hopen, hclose⟩, t, by simp [written]⟩
            cases body with
            | nil => revert hbegins; simp [beginsTag]
            | cons c body => exact ⟨c, body, rfl, by simpa using hbegins⟩
        · cases h
  · rintro ⟨⟨⟨c, rest, rfl, hc⟩, hopen, hclose⟩, t, rfl⟩
    have hwritten : written (c :: rest) ++ t = '[' :: (c :: rest ++ ']' :: t) := by simp [written]
    rw [hwritten, tag?_open, upToClose?_append hopen hclose, List.cons_append, List.head?_cons,
      Option.any_some, if_pos hc]

theorem slashedTag?_slash (s : List Char) :
    slashedTag? ('\\' :: s) = (slashedTag? s).map fun (slashes, body) => (slashes + 1, body) := by
  rw [slashedTag?]

theorem slashedTag?_other {s : List Char} (h : s.head? ≠ some '\\') :
    slashedTag? s = (tag? s).map fun body => (0, body) := by
  rw [slashedTag?]
  rintro t rfl
  exact h rfl

theorem slashedTag?_ne {c : Char} (hopen : c ≠ '[') (hslash : c ≠ '\\') (s : List Char) :
    slashedTag? (c :: s) = none := by
  rw [slashedTag?_other (by simpa using hslash), tag?_ne hopen]
  rfl

theorem slashedTag?_slashed {body : List Char} (h : IsTag body) (slashes : Nat) (t : List Char) :
    slashedTag? (slashed slashes body ++ t) = some (slashes, body) := by
  induction slashes with
  | zero =>
      have htag : tag? (slashed 0 body ++ t) = some body := tag?_eq_some.2 ⟨h, t, rfl⟩
      rw [slashedTag?_other (by simp [slashed, written]), htag]
      rfl
  | succ slashes ih =>
      rw [slashed_succ, List.cons_append, slashedTag?_slash, ih]
      rfl

theorem of_slashedTag? {s body : List Char} {slashes : Nat}
    (h : slashedTag? s = some (slashes, body)) :
    IsTag body ∧ ∃ t, s = slashed slashes body ++ t := by
  fun_induction slashedTag? s generalizing slashes with
  | case1 s ih =>
      obtain ⟨⟨fewer, body'⟩, hs, heq⟩ := Option.map_eq_some_iff.1 h
      cases heq
      obtain ⟨htag, t, rfl⟩ := ih hs
      exact ⟨htag, t, by rw [slashed_succ, List.cons_append]⟩
  | case2 s _ =>
      obtain ⟨body', hs, heq⟩ := Option.map_eq_some_iff.1 h
      cases heq
      exact tag?_eq_some.1 hs

/-- A text is made of tags, each with the backslashes before it, and of other characters. -/
@[elab_as_elim]
theorem tag_induction {motive : List Char → Prop} (nil : motive [])
    (tag : ∀ slashes body t, IsTag body → motive t → motive (slashed slashes body ++ t))
    (other : ∀ c t, slashedTag? (c :: t) = none → motive t → motive (c :: t)) (s : List Char) :
    motive s := by
  induction hlength : s.length using Nat.strongRecOn generalizing s with
  | ind length ih =>
      cases s with
      | nil => exact nil
      | cons c s =>
          cases h : slashedTag? (c :: s) with
          | none => exact other c s h (ih s.length (by simp [← hlength]) s rfl)
          | some found =>
              obtain ⟨slashes, body⟩ := found
              obtain ⟨htag, t, heq⟩ := of_slashedTag? h
              rw [heq] at hlength ⊢
              refine tag slashes body t htag (ih t.length ?_ t rfl)
              rw [← hlength, List.length_append, length_slashed]
              omega

/-! ## One tag or one character -/

variable {opened : List String} {body : List Char}

theorem plainFrom?_skip (opened : List String) (skip : Nat) (s : List Char) :
    plainFrom? opened skip s = plainFrom? opened 0 (s.drop skip) := by
  induction s generalizing skip with
  | nil => cases skip <;> simp [plainFrom?]
  | cons c s ih =>
      cases skip with
      | zero => rfl
      | succ skip => rw [plainFrom?, ih, List.drop_succ_cons]

theorem escapeFrom_skip (skip : Nat) (s : List Char) :
    escapeFrom skip s = escapeFrom 0 (s.drop skip) := by
  induction s generalizing skip with
  | nil => cases skip <;> simp [escapeFrom]
  | cons c s ih =>
      cases skip with
      | zero => rfl
      | succ skip => rw [escapeFrom, ih, List.drop_succ_cons]

/-- A tag is not empty, and behind its first character it ends where it ends. -/
theorem slashed_cons (slashes : Nat) (body : List Char) : ∃ c rest,
    slashed slashes body = c :: rest ∧ rest.length = slashes + body.length + 1 := by
  cases slashes with
  | zero => exact ⟨'[', body ++ [']'], rfl, by simp⟩
  | succ slashes =>
      refine ⟨'\\', slashed slashes body, slashed_succ slashes body, ?_⟩
      rw [length_slashed]
      omega

theorem plainFrom?_tag (h : IsTag body) (slashes : Nat) (t : List Char) :
    plainFrom? opened 0 (slashed slashes body ++ t) =
      if slashes % 2 = 1 then
        (plainFrom? opened 0 t).map (slashed (slashes / 2) body ++ ·)
      else (follow? opened body).bind fun opened' =>
        (plainFrom? opened' 0 t).map (List.replicate (slashes / 2) '\\' ++ ·) := by
  have htag := slashedTag?_slashed h slashes t
  obtain ⟨c, rest, heq, hlength⟩ := slashed_cons slashes body
  rw [heq, List.cons_append] at htag ⊢
  have hdrop : (rest ++ t).drop (slashes + body.length + 1) = t := List.drop_left' hlength
  rw [plainFrom?, htag]
  simp only [plainFrom?_skip _ (slashes + body.length + 1), hdrop]
  split
  · rfl
  · cases follow? opened body <;> rfl

theorem plainFrom?_other {c : Char} {t : List Char} (h : slashedTag? (c :: t) = none) :
    plainFrom? opened 0 (c :: t) =
      if c = '\\' ∧ t.head? = some '[' then plainFrom? opened 0 t
      else (plainFrom? opened 0 t).map (c :: ·) := by
  rw [plainFrom?, h]
  simp only [Bool.and_eq_true, decide_eq_true_eq]

theorem escapeFrom_tag (h : IsTag body) (slashes : Nat) (t : List Char) :
    escapeFrom 0 (slashed slashes body ++ t) =
      slashed (2 * slashes + 1) body ++ escapeFrom 0 t := by
  have htag := slashedTag?_slashed h slashes t
  obtain ⟨c, rest, heq, hlength⟩ := slashed_cons slashes body
  rw [heq, List.cons_append] at htag ⊢
  have hdrop : (rest ++ t).drop (slashes + body.length + 1) = t := List.drop_left' hlength
  rw [escapeFrom, htag]
  simp only [escapeFrom_skip (slashes + body.length + 1), hdrop]
  rfl

theorem escapeFrom_other {c : Char} {t : List Char} (h : slashedTag? (c :: t) = none) :
    escapeFrom 0 (c :: t) = c :: escapeFrom 0 t := by
  rw [escapeFrom, h]

/-! ## Escaped texts -/

/-- A text that ends no tag which an escaped text before it has begun, and that no backslash
before it has to do with. -/
structure IsApart (u : List Char) : Prop where
  unclosed : upToClose? u = none
  untagged : slashedTag? u = none

theorem head?_escapeFrom (s : List Char) :
    (escapeFrom 0 s).head? = s.head? ∨ (escapeFrom 0 s).head? = some '\\' := by
  induction s using tag_induction with
  | nil => exact Or.inl (by simp [escapeFrom])
  | tag slashes body s hbody ih =>
      rw [escapeFrom_tag hbody, slashed_succ]
      exact Or.inr rfl
  | other c s hother ih =>
      rw [escapeFrom_other hother]
      exact Or.inl rfl

theorem upToClose?_slashes (slashes : Nat) (s : List Char) :
    upToClose? (List.replicate slashes '\\' ++ '[' :: s) = none := by
  induction slashes with
  | zero => rfl
  | succ slashes ih =>
      rw [List.replicate_succ, List.cons_append, upToClose?_cons (by decide) (by decide), ih]
      rfl

variable {u : List Char}

theorem upToClose?_escaped (hu : upToClose? u = none) {s : List Char} (h : upToClose? s = none) :
    upToClose? (escapeFrom 0 s ++ u) = none := by
  induction s using tag_induction with
  | nil => exact hu
  | tag slashes body s hbody ih =>
      rw [escapeFrom_tag hbody]
      have hshape : slashed (2 * slashes + 1) body ++ escapeFrom 0 s ++ u =
          List.replicate (2 * slashes + 1) '\\' ++ '[' :: (body ++ ']' :: escapeFrom 0 s ++ u) := by
        simp [slashed, written]
      rw [hshape, upToClose?_slashes]
  | other c s hother ih =>
      rw [escapeFrom_other hother, List.cons_append]
      by_cases hopen : c = '['
      · rw [hopen, upToClose?]
      · by_cases hclose : c = ']'
        · rw [hclose, upToClose?] at h
          cases h
        · rw [upToClose?_cons hclose hopen] at h ⊢
          rw [ih (Option.map_eq_none_iff.1 h)]
          rfl

/-- No tag begins at an ordinary character, escaped or not. -/
theorem slashedTag?_escaped (hu : IsApart u) {s : List Char} (h : slashedTag? s = none) :
    slashedTag? (escapeFrom 0 s ++ u) = none := by
  induction s using tag_induction with
  | nil => exact hu.untagged
  | tag slashes body s hbody ih =>
      rw [slashedTag?_slashed hbody] at h
      cases h
  | other c s hother ih =>
      rw [escapeFrom_other hother, List.cons_append]
      by_cases hslash : c = '\\'
      · subst hslash
        rw [slashedTag?_slash, Option.map_eq_none_iff] at hother ⊢
        exact ih hother
      · have hother' := hother
        rw [slashedTag?_other (by simpa using hslash), Option.map_eq_none_iff] at hother' ⊢
        by_cases hopen : c = '['
        · subst hopen
          -- what follows begins no tag or is not closed, and escaping keeps either
          rw [tag?_open] at hother' ⊢
          cases s with
          | nil => rw [upToClose?_escaped hu.unclosed (s := []) rfl, ite_self]
          | cons d s =>
              split at hother'
              · rw [upToClose?_escaped hu.unclosed hother', ite_self]
              · next hnot =>
                  have hslash : beginsTag '\\' = false := by decide
                  rw [if_neg]
                  obtain hhead | hhead := head?_escapeFrom (d :: s)
                  · simpa [List.head?_append, hhead] using hnot
                  · simp [List.head?_append, hhead, hslash]
        · exact tag?_ne hopen _

/-- An escaped text can be shown whatever is open, if what follows it can. -/
theorem plainFrom?_escapeFrom (hu : IsApart u) (hshown : plainFrom? opened 0 u ≠ none)
    (s : List Char) : plainFrom? opened 0 (escapeFrom 0 s ++ u) ≠ none := by
  induction s using tag_induction with
  | nil => simpa [escapeFrom] using hshown
  | tag slashes body s hbody ih =>
      have hodd : (2 * slashes + 1) % 2 = 1 := by omega
      rwa [escapeFrom_tag hbody, List.append_assoc, plainFrom?_tag hbody, if_pos hodd, ne_eq,
        Option.map_eq_none_iff]
  | other c s hother ih =>
      have hescaped : slashedTag? (c :: (escapeFrom 0 s ++ u)) = none := by
        have h := slashedTag?_escaped hu hother
        rwa [escapeFrom_other hother] at h
      rw [escapeFrom_other hother, List.cons_append, plainFrom?_other hescaped]
      split
      · exact ih
      · rwa [ne_eq, Option.map_eq_none_iff]

theorem isApart_nil : IsApart [] := ⟨rfl, rfl⟩

theorem isApart_slash : IsApart ['\\'] := ⟨rfl, rfl⟩

/-- Escaping adds at most a backslash at the end. -/
theorem escape_eq (s : List Char) : ∃ last, (last = [] ∨ last = ['\\']) ∧
    escape s = escapeFrom 0 s ++ last := by
  rw [escape]
  split
  · exact ⟨['\\'], Or.inr rfl, rfl⟩
  · exact ⟨[], Or.inl rfl, (List.append_nil _).symm⟩

theorem plainFrom?_escape (s : List Char) : plainFrom? [] 0 (escape s) ≠ none := by
  obtain ⟨last, rfl | rfl, heq⟩ := escape_eq s
  · rw [heq]
    exact plainFrom?_escapeFrom isApart_nil (by decide) s
  · rw [heq]
    exact plainFrom?_escapeFrom isApart_slash (by decide) s

/-! ## Ordinary text -/

theorem plainFrom?_front {s : List Char} (hopen : '[' ∉ s) (hslash : '\\' ∉ s) (t : List Char) :
    plainFrom? opened 0 (s ++ t) = (plainFrom? opened 0 t).map (s ++ ·) := by
  induction s with
  | nil => simp
  | cons c s ih =>
      rw [List.mem_cons, not_or] at hopen hslash
      have hother := slashedTag?_ne (Ne.symm hopen.1) (Ne.symm hslash.1) (s ++ t)
      rw [List.cons_append, plainFrom?_other hother, if_neg fun h => hslash.1 h.1.symm,
        ih hopen.2 hslash.2]
      simp [Function.comp_def]

theorem upToClose?_opened {s : List Char} (hclose : ']' ∉ s) (t : List Char) :
    upToClose? (s ++ '[' :: t) = none := by
  induction s with
  | nil => rfl
  | cons c s ih =>
      rw [List.mem_cons, not_or] at hclose
      by_cases hopen : c = '['
      · rw [hopen, List.cons_append, upToClose?]
      · rw [List.cons_append, upToClose?_cons (Ne.symm hclose.1) hopen, ih hclose.2]
        rfl

theorem shown_quiet {s : List Char} (h : s.all isQuiet = true) : shown s = s := by
  refine List.filter_eq_self.2 fun c hc => ?_
  have hquiet := List.all_eq_true.1 h c hc
  simp only [isQuiet, Bool.and_eq_true, Bool.or_eq_true, beq_iff_eq, decide_eq_true_eq] at hquiet
  obtain ⟨-, (rfl | hn) | hn⟩ := hquiet
  · rfl
  all_goals
    simp only [isShown, Bool.not_eq_true', Bool.or_eq_false_iff, beq_eq_false_iff_ne]
    omega

/-- With no backslash in it an escaped text is shown as it is. -/
theorem plainFrom?_escapeFrom_eq {s : List Char} (hslash : '\\' ∉ s) :
    plainFrom? opened 0 (escapeFrom 0 s) = some s := by
  induction s using tag_induction with
  | nil => simp [escapeFrom, plainFrom?]
  | tag slashes body s hbody ih =>
      rw [List.mem_append, not_or] at hslash
      obtain rfl : slashes = 0 := by
        cases slashes with
        | zero => rfl
        | succ slashes => exact absurd List.mem_cons_self hslash.1
      rw [escapeFrom_tag hbody, plainFrom?_tag hbody, ih hslash.2]
      rfl
  | other c s hother ih =>
      rw [List.mem_cons, not_or] at hslash
      have hescaped : slashedTag? (c :: escapeFrom 0 s) = none := by
        have h := slashedTag?_escaped isApart_nil hother
        rwa [List.append_nil, escapeFrom_other hother] at h
      rw [escapeFrom_other hother, plainFrom?_other hescaped, if_neg fun h => hslash.1 h.1.symm,
        ih hslash.2]
      rfl

theorem getLast?_escapeFrom (s : List Char) : (escapeFrom 0 s).getLast? = s.getLast? := by
  induction s using tag_induction with
  | nil => simp [escapeFrom]
  | tag slashes body s hbody ih =>
      have hlast : ∀ slashes, (slashed slashes body).getLast? = some ']' := by
        simp [slashed, written, List.getLast?_cons]
      rw [escapeFrom_tag hbody, List.getLast?_append, List.getLast?_append, hlast, hlast, ih]
  | other c s hother ih =>
      rw [escapeFrom_other hother, List.getLast?_cons, List.getLast?_cons, ih]

theorem endsInSlash_of_noSlash {s : List Char} (hslash : '\\' ∉ s) :
    endsInSlash (escapeFrom 0 s) = false := by
  have hlast : (escapeFrom 0 s).reverse.head? ≠ some '\\' := by
    rw [List.head?_reverse, getLast?_escapeFrom]
    exact fun h => hslash (List.mem_of_getLast? h)
  rw [endsInSlash]
  split
  · rfl
  · next heq =>
      rw [heq] at hlast
      exact absurd rfl hlast
  · rfl

theorem noSlash {s : String} (h : IsQuiet s) : '\\' ∉ s.toList := by
  intro hin
  have hslash := List.all_eq_true.1 h.1 _ hin
  revert hslash
  decide

section Ordinary

variable {s : String} (h : IsOrdinary s)
include h

theorem plainFrom?_ordinary (t : List Char) :
    plainFrom? opened 0 (s.toList ++ t) = (plainFrom? opened 0 t).map (s.toList ++ ·) :=
  plainFrom?_front h.2.1 (noSlash h.1) t

theorem plainFrom?_all_ordinary : plainFrom? opened 0 s.toList = some s.toList := by
  rw [← List.append_nil s.toList, plainFrom?_ordinary h, plainFrom?]
  rfl

end Ordinary

/-! ## Names of styles -/

/-- A small letter begins a tag that is neither a slash nor a blank. -/
theorem of_isLower {c : Char} (h : c.isLower = true) :
    beginsTag c = true ∧ Text.isBlank c = false := by
  obtain ⟨hge, hle⟩ := (Bool.and_eq_true _ _).mp h
  have hlower : 'a' ≤ c ∧ c ≤ 'z' := ⟨of_decide_eq_true hge, of_decide_eq_true hle⟩
  have hge : 97 ≤ c.toNat := of_decide_eq_true hge
  have hle : c.toNat ≤ 122 := of_decide_eq_true hle
  refine ⟨by simp [beginsTag, hlower], ?_⟩
  have hspace : c ≠ ' ' := by
    rintro rfl
    exact absurd hge (by decide)
  simp only [Text.isBlank, Text.isAsciiBlank, Bool.or_eq_false_iff, Bool.and_eq_false_iff,
    beq_eq_false_iff_ne, decide_eq_false_iff_not, ne_eq, hspace, not_false_eq_true, true_and]
  omega

theorem toList_opening (name : String) : (opening name).toList = slashed 0 name.toList := by
  simp [opening, slashed, written]

theorem toList_closing (name : String) :
    (closing name).toList = slashed 0 ('/' :: name.toList) := by
  simp [closing, slashed, written]

section Names

variable {name : String} (h : IsName name)
include h

theorem name_cons : ∃ c rest, name.toList = c :: rest ∧ c.isLower = true := by
  obtain ⟨hhead, -⟩ := h
  cases hname : name.toList with
  | nil => simp [hname] at hhead
  | cons c rest => exact ⟨c, rest, rfl, by simpa [hname] using hhead⟩

theorem name_notMem {c : Char} (hc : (c.isLower || c.isDigit) = false) : c ∉ name.toList := by
  intro hin
  rw [List.all_eq_true.1 h.2 c hin] at hc
  cases hc

theorem isTag_name : IsTag name.toList where
  begins := by
    obtain ⟨c, rest, hname, hc⟩ := name_cons h
    exact ⟨c, rest, hname, (of_isLower hc).1⟩
  unopened := name_notMem h (by decide)
  unclosed := name_notMem h (by decide)

theorem isTag_closing : IsTag ('/' :: name.toList) where
  begins := ⟨'/', _, rfl, by decide⟩
  unopened := List.not_mem_cons_of_ne_of_not_mem (by decide) (name_notMem h (by decide))
  unclosed := List.not_mem_cons_of_ne_of_not_mem (by decide) (name_notMem h (by decide))

theorem takeWhile_name : name.toList.takeWhile (· ≠ '=') = name.toList := by
  refine List.takeWhile_eq_self_iff.2 fun c hc => ?_
  have hne := name_notMem h (c := '=') (by decide)
  simpa using fun heq : c = '=' => hne (heq ▸ hc)

theorem follow?_opening (opened : List String) :
    follow? opened name.toList = some (styleName name.toList :: opened) := by
  obtain ⟨c, rest, hname, hc⟩ := name_cons h
  rw [follow?.eq_def, takeWhile_name h]
  split
  · next heq =>
      obtain rfl := (List.cons.inj (hname.symm.trans heq)).1
      cases hc
  · rfl

theorem follow?_closing (opened : List String) :
    follow? opened ('/' :: name.toList) = close? (styleName name.toList) opened := by
  have hwhile : ('/' :: name.toList).takeWhile (· ≠ '=') = '/' :: name.toList := by
    rw [List.takeWhile_cons_of_pos (by decide), takeWhile_name h]
  have hne : (Text.trimBlanks name.toList).isEmpty = false := by
    obtain ⟨c, rest, hname, hc⟩ := name_cons h
    have hblank := (of_isLower hc).2
    rw [hname, Text.trimBlanks, List.dropWhile_cons_of_neg (by simp [hblank]),
      List.isEmpty_reverse, List.isEmpty_eq_false_iff, ne_eq, List.dropWhile_eq_nil_iff]
    intro hall
    rw [hall c (by simp)] at hblank
    cases hblank
  rw [follow?.eq_def, hwhile]
  simp [hne]

theorem plainFrom?_opening (t : List Char) :
    plainFrom? opened 0 ((opening name).toList ++ t) =
      plainFrom? (styleName name.toList :: opened) 0 t := by
  rw [toList_opening, plainFrom?_tag (isTag_name h), follow?_opening h]
  simp

theorem plainFrom?_closing (t : List Char) :
    plainFrom? opened 0 ((closing name).toList ++ t) =
      (close? (styleName name.toList) opened).bind fun opened => plainFrom? opened 0 t := by
  rw [toList_closing, plainFrom?_tag (isTag_closing h), follow?_closing h]
  simp

end Names

/-! ## The laws -/

theorem shown?_of_plainFrom? {s t : String} (ht : IsQuiet t)
    (h : plainFrom? [] 0 s.toList = some t.toList) : console.shown? s = some t := by
  change (plain? s.toList).map String.ofList = some t
  rw [plain?, h, Option.map_some, shown_quiet ht.1, Option.map_some, String.ofList_toList]

theorem shown?_eq_none_iff {s : String} :
    console.shown? s = none ↔ plainFrom? [] 0 s.toList = none := by
  change (plain? s.toList).map String.ofList = none ↔ _
  rw [plain?, Option.map_eq_none_iff, Option.map_eq_none_iff]

section Before

variable {last : List Char} {after : String} (hlast : last = [] ∨ last = ['\\'])
  (hafter : IsOrdinary after) (hne : after ≠ "") (t : List Char)
include hlast hafter hne

/-- Ordinary text that stands before a tag is apart from the escaped text before it. -/
theorem isApart_before : IsApart (last ++ (after.toList ++ '[' :: t)) where
  unclosed := by
    rw [← List.append_assoc]
    refine upToClose?_opened (List.not_mem_append ?_ hafter.2.2) t
    rcases hlast with rfl | rfl <;> decide
  untagged := by
    have hother : slashedTag? (after.toList ++ '[' :: t) = none := by
      have hopen := hafter.2.1
      have hslash := noSlash hafter.1
      cases hchars : after.toList with
      | nil => exact absurd (String.toList_eq_nil_iff.1 hchars) hne
      | cons c rest =>
          rw [hchars, List.mem_cons, not_or] at hopen hslash
          exact slashedTag?_ne (Ne.symm hopen.1) (Ne.symm hslash.1) _
    rcases hlast with rfl | rfl
    · exact hother
    · rw [List.singleton_append, slashedTag?_slash, hother]
      rfl

theorem plainFrom?_before (hshown : plainFrom? opened 0 ('[' :: t) ≠ none) :
    plainFrom? opened 0 (last ++ (after.toList ++ '[' :: t)) ≠ none := by
  have hrest : plainFrom? opened 0 (after.toList ++ '[' :: t) ≠ none := by
    rwa [plainFrom?_ordinary hafter, ne_eq, Option.map_eq_none_iff]
  have hother := (isApart_before hlast hafter hne t).untagged
  rcases hlast with rfl | rfl
  · exact hrest
  · rw [List.singleton_append] at hother ⊢
    rw [plainFrom?_other hother]
    split
    · exact hrest
    · rwa [ne_eq, Option.map_eq_none_iff]

end Before

@[simp]
theorem toList_escape (s : String) : (console.escape s).toList = escape s.toList :=
  String.toList_ofList

instance lawful : LawfulMarkup where
  ordinary h := shown?_of_plainFrom? h.1 (plainFrom?_all_ordinary h)
  opened {name before after} hname h := by
    refine shown?_of_plainFrom? h.1 ?_
    simp only [String.toList_append, List.append_assoc]
    rw [plainFrom?_ordinary h.of_append.1, plainFrom?_opening hname,
      plainFrom?_all_ordinary h.of_append.2, Option.map_some]
  unopened {name before} after hname h := by
    rw [shown?_eq_none_iff]
    simp only [String.toList_append, List.append_assoc]
    rw [plainFrom?_ordinary h, plainFrom?_closing hname]
    rfl
  styled {name before s} hname h := by
    refine shown?_of_plainFrom? h.1 ?_
    simp only [styled, String.toList_append, List.append_assoc]
    rw [plainFrom?_ordinary h.of_append.1, plainFrom?_opening hname,
      plainFrom?_ordinary h.of_append.2, ← List.append_nil (closing name).toList,
      plainFrom?_closing hname]
    simp [close?, plainFrom?]
  escaped {s} h := by
    refine shown?_of_plainFrom? h ?_
    rw [toList_escape, escape, endsInSlash_of_noSlash (noSlash h)]
    exact plainFrom?_escapeFrom_eq (noSlash h)
  escaped_shown s := by
    rw [ne_eq, shown?_eq_none_iff, toList_escape]
    exact plainFrom?_escape s.toList
  escaped_styled {name after} s hname h hne := by
    obtain ⟨last, hlast, hescape⟩ := escape_eq s.toList
    obtain ⟨tail, htail⟩ : ∃ tail, (closing name).toList = '[' :: tail :=
      ⟨_, toList_closing name⟩
    have hshape : (styled name (console.escape s ++ after)).toList = (opening name).toList ++
        (escapeFrom 0 s.toList ++ (last ++ (after.toList ++ '[' :: tail))) := by
      simp only [styled, String.toList_append, toList_escape, hescape, htail, List.append_assoc]
    have hclosing : plainFrom? [styleName name.toList] 0 ('[' :: tail) ≠ none := by
      rw [← htail, ← List.append_nil (closing name).toList, plainFrom?_closing hname]
      simp [close?, plainFrom?]
    rw [ne_eq, shown?_eq_none_iff, hshape, plainFrom?_opening hname]
    exact plainFrom?_escapeFrom (isApart_before hlast h hne _)
      (plainFrom?_before hlast h hne _ hclosing) s.toList

end SecretScan.Console.Tags

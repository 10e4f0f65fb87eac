import SecretScan.Proofs.Rewrite.SealedRules

/-!
# Keys in a text that was rewritten

The rule for keys consumes quotes, so a seam with quotes is not sealed off from it. But a
key holds none of the signs that a reference holds around a variable, and it ends in a
quote. So no key reaches over a reference that has such signs on both sides of the
variable, and a key of the new text stands in the old one as well.
-/

namespace SecretScan

namespace Rewrite

open Pattern Secrets Env

/-- A text that stands in another one, stands on one side of a character that it has not. -/
theorem factor_cut {b : Char} {x z u w v : List Char} (hb : b ∉ w)
    (h : x ++ b :: z = u ++ (w ++ v)) :
    (∃ v', x = u ++ (w ++ v')) ∨ ∃ u', z = u' ++ (w ++ v) := by
  rcases List.append_eq_append_iff.1 h with ⟨n, hu, hn⟩ | ⟨n, hx, hn⟩
  · cases n with
    | nil =>
        cases w with
        | nil => exact Or.inl ⟨[], by simp [hu]⟩
        | cons c w =>
            obtain ⟨rfl, -⟩ := List.cons.inj hn
            exact absurd List.mem_cons_self hb
    | cons c n =>
        obtain ⟨-, hz⟩ := List.cons.inj hn
        exact Or.inr ⟨n, hz⟩
  · rcases List.append_eq_append_iff.1 hn with ⟨m, hm, -⟩ | ⟨m, hw, hm⟩
    · exact Or.inl ⟨m, by rw [hx, hm]⟩
    · cases m with
      | nil => exact Or.inl ⟨[], by rw [hx, hw]; simp⟩
      | cons c m =>
          obtain ⟨rfl, -⟩ := List.cons.inj hm
          exact absurd (by simp) (hw ▸ hb)

theorem not_factor {c : Char} {y u w v : List Char} (hc : c ∈ w) (hy : c ∉ y) :
    y ≠ u ++ (w ++ v) := by
  rintro rfl
  exact hy (by simp [hc])

/-- A text that ends in a quote, and stands in another one, ends before a stretch without
quotes does. -/
theorem factor_before {x y u w v : List Char} {q : Char} (hy : q ∉ y)
    (h : x ++ y = u ++ (w ++ [q] ++ v)) : ∃ v', x = u ++ (w ++ [q] ++ v') := by
  rw [← List.append_assoc, ← List.append_assoc] at h
  rcases List.append_eq_append_iff.1 h with ⟨n, hx, hn⟩ | ⟨n, hx, -⟩
  · rcases List.eq_nil_or_concat n with rfl | ⟨n', c, rfl⟩
    · exact ⟨[], by simpa using hx.symm⟩
    · rw [List.concat_eq_append] at hn
      rw [List.concat_eq_append, ← List.append_assoc] at hx
      have hc : q = c := (List.append_inj' hx rfl).2 |> List.singleton_inj.1
      exact absurd (by rw [hn, hc]; simp) hy
  · exact ⟨n, by rw [hx]; simp⟩

/-! ## What a key is made of -/

variable {w : List Char}

/-- The signs of which references are made. -/
def referenceSigns : List Char := ['$', '\x7b', '\x7d', '.', '[', ']']

theorem apiKey_not_mem (h : Reads apiKeyPattern w) : ∀ c ∈ referenceSigns, c ∉ w :=
  h.shuns (show apiKeyPattern.shuns false referenceSigns = true by decide +kernel)

theorem apiKey_sign (h : Reads apiKeyPattern w) : ∃ c ∈ w, c ∈ signs := by
  obtain ⟨name, rest, value, q, q', hw⟩ := apiKey_text h
  obtain ⟨-, c, hc, hsign⟩ := apiKeyRest hw.rest_read
  exact ⟨c, by rw [hw.text]; simp [hc], hsign⟩

theorem apiKey_end (h : Reads apiKeyPattern w) : ∃ front q, w = front ++ [q] ∧ q ∈ quotes := by
  obtain ⟨name, rest, value, q, q', hw⟩ := apiKey_text h
  exact ⟨name ++ rest ++ q :: value, q', by rw [hw.text]; simp, mem_quotes hw.quote'⟩

theorem apiKey_head (h : Reads apiKeyPattern w) {q : Char} (hq : q ∈ quotes) (z : List Char) :
    w ≠ q :: z := by
  obtain ⟨name, rest, value, q', r, hw⟩ := apiKey_text h
  intro heq
  rw [hw.text] at heq
  have heq : name ++ rest ++ q' :: (value ++ [r]) = [] ++ q :: z := heq
  exact hw.front_ne_nil (cut_unique hw.front_not_mem (by simp) (mem_quotes hw.quote) hq heq).1

/-! ## Keys and references -/

/-- A key in a text with a variable between quotes stands in front of it, the quote
included, or behind it. -/
theorem apiKey_severed_other (h : Reads apiKeyPattern w) {q : Char} (hq : q ∈ quotes)
    {name : String} (hname : IsName name) {x z u v : List Char}
    (heq : x ++ (q :: (braced name ++ [q]) ++ z) = u ++ (w ++ v)) :
    (∃ v', x ++ [q] = u ++ (w ++ v')) ∨ ∃ u', z = u' ++ (w ++ v) := by
  have hsigns := apiKey_not_mem h
  obtain ⟨front, q', rfl, hq'⟩ := apiKey_end h
  have heq : (x ++ [q]) ++ '$' :: (('\x7b' :: name.toList) ++ '\x7d' :: (q :: z)) =
      u ++ (front ++ [q'] ++ v) := by
    rw [← heq]
    simp [braced]
  rcases factor_cut (hsigns '$' (by decide)) heq with ⟨v', hleft⟩ | ⟨u', hright⟩
  · exact Or.inl ⟨v', hleft⟩
  · rcases factor_cut (hsigns '\x7d' (by decide)) hright with ⟨v', hinner⟩ | ⟨u'', hbehind⟩
    · -- there is no quote in the name
      refine absurd hinner (not_factor (c := q') (by simp) ?_)
      have hbrace : ∀ q ∈ quotes, q ≠ '\x7b' ∧ q ∉ nameAlphabet :=
        List.all_iff_forall_prop.1 (by decide)
      intro hmem
      rcases List.mem_cons.1 hmem with hmem | hmem
      · exact (hbrace q' hq').1 hmem
      · exact (hbrace q' hq').2 (hname.chars.1 q' hmem)
    · cases u'' with
      | nil =>
          cases hfront : front ++ [q'] with
          | nil => simp at hfront
          | cons c tail =>
              rw [hfront] at hbehind
              obtain ⟨rfl, -⟩ := List.cons.inj hbehind
              exact absurd hfront (apiKey_head h hq tail)
      | cons c u'' => exact Or.inr ⟨u'', (List.cons.inj hbehind).2⟩

/-- A key in a text with a variable that is looked up by its name stands in front of it or
behind it. -/
theorem apiKey_severed_lookup (h : Reads apiKeyPattern w) {name : String} (hname : IsName name)
    {x z u v : List Char}
    (heq : x ++ ('o' :: ("s.environ[\"".toList ++ name.toList ++ "\"]".toList) ++ z) =
      u ++ (w ++ v)) :
    (∃ v', x = u ++ (w ++ v')) ∨ ∃ u', z = u' ++ (w ++ v) := by
  have hsigns := apiKey_not_mem h
  obtain ⟨c, hc, hsign⟩ := apiKey_sign h
  obtain ⟨front, q', rfl, hq'⟩ := apiKey_end h
  have heq : (x ++ "os".toList) ++ '.' :: ("environ".toList ++ '[' ::
      (('"' :: (name.toList ++ ['"'])) ++ ']' :: z)) = u ++ (front ++ [q'] ++ v) := by
    rw [← heq]
    simp
  rcases factor_cut (hsigns '.' (by decide)) heq with ⟨v', hleft⟩ | ⟨u', hright⟩
  · have hos : ∀ q ∈ quotes, q ∉ "os".toList :=
      List.all_iff_forall_prop.1 (by decide)
    exact Or.inl (factor_before (hos q' hq') hleft)
  · rcases factor_cut (hsigns '[' (by decide)) hright with ⟨v', hinner⟩ | ⟨u'', hbehind⟩
    · have henviron : ∀ q ∈ quotes, q ∉ "environ".toList :=
        List.all_iff_forall_prop.1 (by decide)
      exact absurd hinner (not_factor (c := q') (by simp) (henviron q' hq'))
    · rcases factor_cut (hsigns ']' (by decide)) hbehind with ⟨v', hinner⟩ | ⟨u'', hbehind⟩
      · -- there is no sign in the name
        refine absurd hinner (not_factor hc ?_)
        have hsign' : ∀ c ∈ signs, c ≠ '"' ∧ c ∉ nameAlphabet :=
          List.all_iff_forall_prop.1 (by decide)
        intro hmem
        simp only [List.mem_cons, List.mem_append, List.not_mem_nil, or_false] at hmem
        rcases hmem with hmem | hmem | hmem
        · exact (hsign' c hsign).1 hmem
        · exact (hsign' c hsign).2 (hname.chars.1 c hmem)
        · exact (hsign' c hsign).1 hmem
      · exact Or.inr ⟨u'', hbehind⟩

theorem apiKey_severed (h : Reads apiKeyPattern w) {file : FilePath}
    (hfile : objectSuffixes.contains file.kind = false) {r : Replaced} (hquote : IsQuote r.quote)
    (hname : IsName r.variableName) {x z u v : List Char}
    (heq : x ++ (r.seam file ++ z) = u ++ (w ++ v)) :
    (∃ v', x ++ [r.quote] = u ++ (w ++ v')) ∨ ∃ u', z = u' ++ (w ++ v) := by
  by_cases hlookup : file.kind = lookupSuffix
  · rw [seam_lookup hlookup] at heq
    rcases apiKey_severed_lookup h hname heq with ⟨v', hx⟩ | hz
    · exact Or.inl ⟨v' ++ [r.quote], by rw [hx]; simp⟩
    · exact Or.inr hz
  · rw [seam_other hfile hlookup] at heq
    exact apiKey_severed_other h (mem_quotes hquote) hname heq

/-- A key of the new text stands in the old one, and outside of the bodies of the literals. -/
theorem apiKey_replaces (hw : Reads apiKeyPattern w) {file : FilePath}
    (hfile : objectSuffixes.contains file.kind = false) {pos : Nat} {rs : List Replaced}
    {s t : List Char} (h : Replaces file pos rs s t)
    (hrs : ∀ r ∈ rs, IsQuote r.quote ∧ IsName r.variableName) :
    ∀ {u v : List Char}, t = u ++ (w ++ v) →
      ∃ u' v', s = u' ++ (w ++ v') ∧ Outside rs (pos + u'.length) w.length := by
  induction h with
  | rest pos s => intro u v ht; exact ⟨u, v, ht, by simp [Outside]⟩
  | @next pos r rs s t gap hstart hrest ih =>
      intro u v ht
      obtain ⟨hquote, hname⟩ := hrs r List.mem_cons_self
      have ht : (gap ++ r.kept) ++ (r.seam file ++ t) = u ++ (w ++ v) := by
        rw [← ht, Replaced.successor_eq]
        simp
      have hstop : r.stop = r.start + (r.kept.length + (r.body.length + 1 + 1)) := by
        simp [Replaced.stop, Replaced.literal]
      rcases apiKey_severed hw hfile hquote hname ht with ⟨v', hx⟩ | ⟨u', hz⟩
      · refine ⟨u, v' ++ (r.body ++ r.quote :: s), ?_, ?_⟩
        · rw [← List.append_assoc w, ← List.append_assoc u, ← hx]
          simp [Replaced.literal]
        · have hlen := congrArg List.length hx
          simp only [List.length_append, List.length_singleton] at hlen
          intro x hxmem
          left
          rcases List.mem_cons.1 hxmem with rfl | hxmem
          · omega
          · have := hrest.le_start x hxmem
            omega
      · obtain ⟨u'', v', hs, hout⟩ := ih (fun x hx => hrs x (List.mem_cons_of_mem r hx)) hz
        have hlen : pos + (gap ++ (r.literal ++ u'')).length = r.stop + u''.length := by
          rw [Replaced.stop, hstart]
          simp only [List.length_append]
          omega
        refine ⟨gap ++ (r.literal ++ u''), v', by rw [hs]; simp, ?_⟩
        rw [hlen]
        intro x hxmem
        rcases List.mem_cons.1 hxmem with rfl | hxmem
        · right; omega
        · exact hout x hxmem

end Rewrite

end SecretScan

import Mathlib.Data.Finset.Card
import Mathlib.Data.List.Nodup
import SecretScan.Env.Mapping

/-!
# One variable for every match

A pool gives out a name that is free: the numbered names over a base differ, so as many of
them as are taken one after another are at most as many as are taken (`le_card_of_taken`), and
the search stops at the first free one (`allocate_least`).

`After` says where a mapping and its pool stand once some findings have been added. Every
match has one entry, in the order in which the matches were first met, and it holds what the
first finding with the match gave it; the pool has taken the reserved names and those of the
entries, all of them different. One finding more keeps this up (`After.add`), and so does a
list of findings.
-/

namespace SecretScan

theorem find?_eq_of_unique {α : Type} {p : α → Bool} {l : List α} {a : α} (ha : a ∈ l)
    (hp : p a = true) (honly : ∀ b ∈ l, p b = true → b = a) : l.find? p = some a := by
  cases hfind : l.find? p with
  | none => exact absurd hp (List.find?_eq_none.1 hfind a ha)
  | some b => rw [honly b (List.mem_of_find?_eq_some hfind) (List.find?_some hfind)]

theorem eraseDups_concat {α : Type} [DecidableEq α] (l : List α) (a : α) :
    (l ++ [a]).eraseDups = l.eraseDups ++ if a ∈ l then [] else [a] := by
  rw [List.eraseDups_append, List.removeAll, List.filter_singleton]
  by_cases h : a ∈ l <;> simp [h, List.eraseDups_cons]

theorem nodup_eraseDups {α : Type} [DecidableEq α] (l : List α) : l.eraseDups.Nodup := by
  induction l using List.reverseRecOn with
  | nil => exact List.nodup_nil
  | append_singleton l a ih =>
      rw [eraseDups_concat]
      split
      · rwa [List.append_nil]
      · next h =>
          refine List.nodup_append.2 ⟨ih, List.nodup_singleton a, ?_⟩
          intro b hb c hc
          rw [List.mem_singleton.1 hc]
          exact ne_of_mem_of_not_mem (List.mem_eraseDups.1 hb) h

namespace Env

/-! ## Free names -/

theorem toString_inj {i j : Nat} (h : toString i = toString j) : i = j := by
  have hdigits := congrArg String.toList h
  rw [Nat.toString_eq_repr, Nat.toString_eq_repr, Nat.toList_repr, Nat.toList_repr] at hdigits
  have hvalue := congrArg (Nat.ofDigitChars 10 · 0) hdigits
  simpa [Nat.ofDigitChars_toDigits] using hvalue

theorem numbered_inj {base : String} {i j : Nat} (h : numbered base i = numbered base j) :
    i = j := by
  have hself : ∀ n : Nat, base ≠ base ++ "_" ++ toString (n + 1) := by
    intro n heq
    have hlen := congrArg String.length heq
    rw [String.length_append, String.length_append, show "_".length = 1 from rfl] at hlen
    omega
  cases i with
  | zero =>
      cases j with
      | zero => rfl
      | succ j => exact absurd h (hself j)
  | succ i =>
      cases j with
      | zero => exact absurd h.symm (hself i)
      | succ j =>
          rw [numbered, numbered, String.append_right_inj] at h
          exact toString_inj h

/-- The search stops at the first name that is free, unless its budget is used up. -/
theorem firstFree_eq (taken : List String) (base : String) : ∀ (budget index : Nat),
    ∃ k ≤ budget, firstFree taken base index budget = numbered base (index + k) ∧
      (∀ j < k, numbered base (index + j) ∈ taken) ∧
      (k < budget → numbered base (index + k) ∉ taken) := by
  intro budget
  induction budget with
  | zero => intro index; exact ⟨0, Nat.le_refl 0, rfl, by simp, by simp⟩
  | succ budget ih =>
      intro index
      rw [firstFree]
      split
      · next hmem =>
          obtain ⟨k, hk, heq, htaken, hfree⟩ := ih (index + 1)
          refine ⟨k + 1, by omega, ?_, ?_, ?_⟩
          · rw [heq, show index + 1 + k = index + (k + 1) by omega]
          · intro j hj
            cases j with
            | zero => exact List.contains_iff_mem.1 hmem
            | succ j =>
                rw [show index + (j + 1) = index + 1 + j by omega]
                exact htaken j (by omega)
          · intro hlt
            rw [show index + (k + 1) = index + 1 + k by omega]
            exact hfree (by omega)
      · next hmem =>
          refine ⟨0, Nat.zero_le _, rfl, by simp, fun _ hin => ?_⟩
          exact hmem (List.contains_iff_mem.2 hin)

/-- As many names over a base as are taken one after another, there are names that are taken. -/
theorem le_card_of_taken {taken : List String} {base : String} {k : Nat}
    (h : ∀ j < k, numbered base j ∈ taken) : k ≤ taken.toFinset.card := by
  have hsubset : (Finset.range k).image (numbered base) ⊆ taken.toFinset := by
    intro name hname
    obtain ⟨j, hj, rfl⟩ := Finset.mem_image.1 hname
    exact List.mem_toFinset.2 (h j (Finset.mem_range.1 hj))
  calc k = ((Finset.range k).image (numbered base)).card := by
        rw [Finset.card_image_of_injective _ fun _ _ => numbered_inj, Finset.card_range]
    _ ≤ taken.toFinset.card := Finset.card_le_card hsubset

/-- With one name to try for every taken one, the search ends at the first free name. -/
theorem allocate_least (pool : NamePool) (rule : String) :
    ∃ k ≤ pool.taken.toFinset.card, (pool.allocate rule).1 = numbered (baseName rule) k ∧
      numbered (baseName rule) k ∉ pool.taken ∧
      ∀ j < k, numbered (baseName rule) j ∈ pool.taken := by
  obtain ⟨k, hk, heq, htaken, hfree⟩ := firstFree_eq pool.taken (baseName rule) pool.taken.length 0
  simp only [Nat.zero_add] at heq htaken hfree
  refine ⟨k, le_card_of_taken htaken, heq, ?_, htaken⟩
  intro hmem
  -- then the first `k + 1` names are taken, but the search goes on up to the number of taken ones
  have htaken' : ∀ j < k + 1, numbered (baseName rule) j ∈ pool.taken := by
    intro j hj
    rcases Nat.lt_succ_iff_lt_or_eq.1 hj with hj | rfl
    · exact htaken j hj
    · exact hmem
  have hcard := le_card_of_taken htaken'
  have hlength := List.toFinset_card_le pool.taken
  exact hfree (by omega) hmem

theorem allocate_not_mem (pool : NamePool) (rule : String) :
    (pool.allocate rule).1 ∉ pool.taken := by
  obtain ⟨k, -, heq, hfree, -⟩ := allocate_least pool rule
  rwa [heq]

theorem allocate_taken (pool : NamePool) (rule : String) :
    (pool.allocate rule).2.taken = (pool.allocate rule).1 :: pool.taken := rfl

/-! ## One finding more -/

namespace Mapping

variable {m : Mapping} {pool reserved : NamePool} {f : Finding} {e : Entry}

theorem names_eq (m : Mapping) : m.names = m.byKey.map (·.2.name) := by
  rw [names, entries, List.map_map]
  rfl

theorem assigned_eq_none : m.assigned? f = none ↔ f.key ∉ m.byKey.map (·.1) := by
  rw [assigned?, List.lookup_eq_none_iff]
  simp only [bne_iff_ne, ne_eq, List.mem_map, not_exists, not_and]
  exact ⟨fun h x hx heq => h x hx heq.symm, fun h x hx heq => h x hx heq.symm⟩

theorem exists_assigned (h : f.key ∈ m.byKey.map (·.1)) : ∃ e, m.assigned? f = some e :=
  Option.ne_none_iff_exists'.1 fun hnone => assigned_eq_none.1 hnone h

theorem mem_of_assigned (h : m.assigned? f = some e) : (f.key, e) ∈ m.byKey := by
  obtain ⟨l, l', hl, -⟩ := List.lookup_eq_some_iff.1 h
  rw [hl]
  simp

theorem add_known (h : m.assigned? f = some e) : m.add pool f = (e, m, pool) := by
  rw [Mapping.add, h]

theorem add_new (h : m.assigned? f = none) : m.add pool f =
    (⟨(pool.allocate f.rule).1, f.value, f.rule⟩,
      ⟨m.byKey ++ [(f.key, ⟨(pool.allocate f.rule).1, f.value, f.rule⟩)]⟩,
      (pool.allocate f.rule).2) := by
  rw [Mapping.add, h]

theorem assigned_append (h : m.assigned? f = some e) (l : List (String × Entry)) :
    Mapping.assigned? ⟨m.byKey ++ l⟩ f = some e := by
  rw [assigned?] at h
  rw [assigned?, List.lookup_append, h, Option.some_or]

theorem assigned_append_self (h : m.assigned? f = none) (e : Entry) :
    Mapping.assigned? ⟨m.byKey ++ [(f.key, e)]⟩ f = some e := by
  rw [assigned?] at h
  rw [assigned?, List.lookup_append, h, Option.none_or, List.lookup_cons, beq_self_eq_true]

/-- What a finding is given is what it has from then on. -/
theorem assigned_add_self (m : Mapping) (pool : NamePool) (f : Finding) :
    Mapping.assigned? (m.add pool f).2.1 f = some (m.add pool f).1 := by
  cases h : m.assigned? f with
  | some e => rw [add_known h, h]
  | none => rw [add_new h, assigned_append_self h]

theorem assigned_add (h : m.assigned? f = some e) (pool : NamePool) (g : Finding) :
    Mapping.assigned? (m.add pool g).2.1 f = some e := by
  cases hg : m.assigned? g with
  | some e' => rwa [add_known hg]
  | none => rw [add_new hg]; exact assigned_append h _

/-! ## All findings -/

/-- A mapping and its pool after findings were added one after another. -/
def addAll (m : Mapping) (pool : NamePool) : List Finding → Mapping × NamePool
  | [] => (m, pool)
  | f :: rest => addAll (m.add pool f).2.1 (m.add pool f).2.2 rest

theorem extend_eq (findings : List Finding) : ∀ (m : Mapping) (pool : NamePool),
    m.extend pool findings = (m.addAll pool findings).1 := by
  induction findings with
  | nil => intro m pool; rfl
  | cons f findings ih => intro m pool; exact ih _ _

theorem addAll_append (seen later : List Finding) : ∀ (m : Mapping) (pool : NamePool),
    m.addAll pool (seen ++ later) =
      (m.addAll pool seen).1.addAll (m.addAll pool seen).2 later := by
  induction seen with
  | nil => intro m pool; rfl
  | cons f seen ih => intro m pool; exact ih _ _

theorem assigned_addAll {findings : List Finding} : ∀ {m : Mapping} {pool : NamePool},
    m.assigned? f = some e → Mapping.assigned? (m.addAll pool findings).1 f = some e := by
  induction findings with
  | nil => intro m pool h; exact h
  | cons g findings ih => intro m pool h; exact ih (assigned_add h pool g)

/-- Where a mapping and its pool stand once some findings were added to the empty mapping. -/
structure After (reserved : NamePool) (m : Mapping) (pool : NamePool) (seen : List Finding) :
    Prop where
  keys : m.byKey.map (·.1) = (seen.map (·.key)).eraseDups
  firsts : ∀ x ∈ m.byKey, ∃ g, seen.find? (fun g => g.key = x.1) = some g ∧
    x.2.value = g.value ∧ x.2.rule = g.rule
  taken : pool.taken = m.names.reverse ++ reserved.taken
  distinct : m.names.Nodup
  free : ∀ name ∈ m.names, name ∉ reserved.taken

theorem After.nil (reserved : NamePool) : After reserved {} reserved [] where
  keys := rfl
  firsts := by simp
  taken := rfl
  distinct := List.nodup_nil
  free := by simp [names_eq]

theorem After.mem_keys {seen : List Finding} (h : After reserved m pool seen) :
    f.key ∈ m.byKey.map (·.1) ↔ f.key ∈ seen.map (·.key) := by
  rw [h.keys, List.mem_eraseDups]

/-- One finding more: it has an entry already, or it gets one under a name that is free. -/
theorem After.add {seen : List Finding} (h : After reserved m pool seen) (f : Finding) :
    After reserved (m.add pool f).2.1 (m.add pool f).2.2 (seen ++ [f]) := by
  have hfirsts : ∀ x ∈ m.byKey, ∃ g, (seen ++ [f]).find? (fun g => g.key = x.1) = some g ∧
      x.2.value = g.value ∧ x.2.rule = g.rule := by
    intro x hx
    obtain ⟨g, hg, hsame⟩ := h.firsts x hx
    exact ⟨g, by rw [List.find?_append, hg, Option.some_or], hsame⟩
  have hkeys : ((seen ++ [f]).map (·.key)).eraseDups =
      m.byKey.map (·.1) ++ if f.key ∈ seen.map (·.key) then [] else [f.key] := by
    rw [List.map_append, List.map_singleton, eraseDups_concat, h.keys]
  cases hentry : m.assigned? f with
  | some e =>
      have hmem : f.key ∈ seen.map (·.key) :=
        h.mem_keys.1 (List.mem_map.2 ⟨_, mem_of_assigned hentry, rfl⟩)
      rw [add_known hentry]
      refine ⟨?_, hfirsts, h.taken, h.distinct, h.free⟩
      rw [hkeys, if_pos hmem, List.append_nil]
  | none =>
      have hmem : f.key ∉ seen.map (·.key) := fun hmem =>
        assigned_eq_none.1 hentry (h.mem_keys.2 hmem)
      have hfree := allocate_not_mem pool f.rule
      rw [h.taken, List.mem_append, List.mem_reverse, not_or] at hfree
      rw [add_new hentry]
      refine ⟨?_, ?_, ?_, ?_, ?_⟩
      · rw [hkeys, if_neg hmem, List.map_append]
        rfl
      · intro x hx
        rcases List.mem_append.1 hx with hx | hx
        · exact hfirsts x hx
        · obtain rfl := List.mem_singleton.1 hx
          refine ⟨f, ?_, rfl, rfl⟩
          have hnone : seen.find? (fun g => g.key = f.key) = none := by
            rw [List.find?_eq_none]
            intro g hg heq
            exact hmem (List.mem_map.2 ⟨g, hg, of_decide_eq_true heq⟩)
          rw [List.find?_append, hnone, Option.none_or, List.find?_singleton]
          simp
      · rw [allocate_taken, h.taken, names_eq, names_eq, List.map_append, List.reverse_append]
        rfl
      · rw [names_eq, List.map_append, ← names_eq]
        refine List.nodup_append.2 ⟨h.distinct, List.nodup_singleton _, ?_⟩
        intro name hname name' hname'
        rw [List.mem_singleton.1 hname']
        exact ne_of_mem_of_not_mem hname hfree.1
      · intro name hname
        rw [names_eq, List.map_append, ← names_eq] at hname
        rcases List.mem_append.1 hname with hname | hname
        · exact h.free name hname
        · rw [List.mem_singleton.1 hname]
          exact hfree.2

theorem After.addAll : ∀ {later : List Finding} {m : Mapping} {pool : NamePool}
    {seen : List Finding}, After reserved m pool seen →
      After reserved (m.addAll pool later).1 (m.addAll pool later).2 (seen ++ later) := by
  intro later
  induction later with
  | nil => intro m pool seen h; rwa [List.append_nil]
  | cons f later ih =>
      intro m pool seen h
      have hrest := ih (h.add f)
      rwa [List.append_assoc, List.singleton_append] at hrest

theorem after_addAll (reserved : NamePool) (seen : List Finding) :
    After reserved (addAll {} reserved seen).1 (addAll {} reserved seen).2 seen :=
  (After.nil reserved).addAll

theorem after_ofFindings (reserved : NamePool) (findings : List Finding) :
    After reserved (ofFindings findings reserved) (addAll {} reserved findings).2 findings := by
  rw [ofFindings, extend_eq]
  exact after_addAll reserved findings

/-- The first finding with each match, in the order in which the matches were first met. -/
def firstFindings (findings : List Finding) : List Finding :=
  (findings.map (·.key)).eraseDups.filterMap fun key => findings.find? (·.key = key)

/-- The entries are those of the first findings, in their order. -/
theorem After.map_firstFindings {β : Type} {seen : List Finding} (h : After reserved m pool seen)
    {v : String × Entry → β} {w : Finding → β}
    (hsame : ∀ x ∈ m.byKey, ∀ g, g.key = x.1 → x.2.value = g.value → w g = v x) :
    (firstFindings seen).map w = m.byKey.map v := by
  rw [firstFindings, ← h.keys, List.filterMap_map, List.map_filterMap, ← List.filterMap_eq_map]
  refine List.filterMap_congr fun x hx => ?_
  obtain ⟨g, hg, hvalue, -⟩ := h.firsts x hx
  have hkey : g.key = x.1 := by simpa using List.find?_some hg
  rw [Function.comp_apply, hg, Option.map_some, hsame x hx g hkey hvalue]
  rfl

theorem After.assigned_of_mem {seen : List Finding} (h : After reserved m pool seen)
    {x : String × Entry} (hx : x ∈ m.byKey) (hkey : f.key = x.1) : m.assigned? f = some x.2 := by
  have hnodup : (m.byKey.map (·.1)).Nodup := by
    rw [h.keys]
    exact nodup_eraseDups _
  obtain ⟨e, he⟩ := exists_assigned (List.mem_map.2 ⟨x, hx, hkey.symm⟩)
  rw [he, ← List.inj_on_of_nodup_map hnodup (mem_of_assigned he) hx hkey]

/-- A finding has an entry. It holds the value of a finding with the same match, and no
other entry has its name. -/
theorem ofFindings_entry {findings : List Finding} (pool : NamePool) {f : Finding}
    (h : f ∈ findings) : ∃ e ∈ (ofFindings findings pool).entries,
      (ofFindings findings pool).name? f = some e.name ∧
      (∃ g ∈ findings, g.key = f.key ∧ e.value = g.value) ∧
      ∀ e' ∈ (ofFindings findings pool).entries, e'.name = e.name → e' = e := by
  have hafter := after_ofFindings pool findings
  obtain ⟨e, he⟩ := exists_assigned (hafter.mem_keys.2 (List.mem_map.2 ⟨f, h, rfl⟩))
  have hmem := mem_of_assigned he
  have hentry : e ∈ (ofFindings findings pool).entries := List.mem_map.2 ⟨_, hmem, rfl⟩
  refine ⟨e, hentry, by rw [name?, he]; rfl, ?_, ?_⟩
  · obtain ⟨g, hg, hvalue, -⟩ := hafter.firsts _ hmem
    have hkey := List.find?_some hg
    exact ⟨g, List.mem_of_find?_eq_some hg, of_decide_eq_true hkey, hvalue⟩
  · intro e' he' hname
    exact List.inj_on_of_nodup_map hafter.distinct he' hentry hname

end Mapping

end Env

end SecretScan

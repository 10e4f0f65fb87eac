import SecretScan.Proofs.Env.Mapping

/-!
# Names are given once

The names that a mapping gives depend on the order of the findings, but only backwards: what a
match was called when it was first met it is called ever after, and the next new name is the
first one over its base that neither was reserved nor has been given yet. So after any number
of findings, two of them have one name exactly if they have one match (`names_stable`).
-/

namespace SecretScan.Env

/-- The name that comes next over a base: the base itself if it is free, and else the base with
the least number with which it is. At most as many names are passed over as are taken. -/
def IsNext (taken : List String) (base name : String) : Prop :=
  ∃ k ≤ taken.toFinset.card, name = numbered base k ∧ numbered base k ∉ taken ∧
    ∀ j < k, numbered base j ∈ taken

namespace Mapping

variable {m : Mapping} {pool reserved : NamePool} {seen : List Finding}

theorem name?_eq_some {f : Finding} {name : String} :
    m.name? f = some name ↔ ∃ e, m.assigned? f = some e ∧ e.name = name :=
  Option.map_eq_some_iff

theorem After.exists_name (h : After reserved m pool seen) {f : Finding} (hf : f ∈ seen) :
    ∃ name ∈ m.names, m.name? f = some name := by
  obtain ⟨e, he⟩ := exists_assigned (h.mem_keys.2 (List.mem_map.2 ⟨f, hf, rfl⟩))
  have hmem : e.name ∈ m.byKey.map (·.2.name) := List.mem_map.2 ⟨_, mem_of_assigned he, rfl⟩
  exact ⟨e.name, by rwa [names_eq], name?_eq_some.2 ⟨e, he, rfl⟩⟩

/-- Names differ, so a name leads back to its match. -/
theorem After.name?_inj (h : After reserved m pool seen) {f : Finding} (hf : f ∈ seen)
    (g : Finding) : m.name? f = m.name? g ↔ f.key = g.key := by
  constructor
  · intro heq
    obtain ⟨name, -, hname⟩ := h.exists_name hf
    obtain ⟨e, he, hename⟩ := name?_eq_some.1 hname
    obtain ⟨e', he', hename'⟩ := name?_eq_some.1 (heq.symm.trans hname)
    have hdistinct := h.distinct
    rw [names_eq] at hdistinct
    have hpair : (f.key, e) = (g.key, e') :=
      List.inj_on_of_nodup_map hdistinct (mem_of_assigned he) (mem_of_assigned he')
        (hename.trans hename'.symm)
    exact (Prod.mk.inj hpair).1
  · intro hkey
    rw [name?, name?, assigned?, assigned?, hkey]

/-! The entries are those of the first findings. -/

theorem After.keys_firstFindings (h : After reserved m pool seen) :
    (firstFindings seen).map (·.key) = (seen.map (·.key)).eraseDups := by
  rw [← h.keys]
  exact h.map_firstFindings fun _ _ _ hkey _ => hkey

theorem After.names_firstFindings (h : After reserved m pool seen) :
    (firstFindings seen).map m.name? = m.names.map some := by
  rw [names_eq, List.map_map]
  exact h.map_firstFindings fun x hx _ hkey _ => name?_eq_some.2 ⟨x.2, h.assigned_of_mem hx hkey, rfl⟩

theorem After.values_firstFindings (h : After reserved m pool seen) :
    m.entries.map (fun e => (e.name, e.value)) =
      m.names.zip ((firstFindings seen).map (·.value)) := by
  have hvalues : (firstFindings seen).map (·.value) = m.byKey.map (·.2.value) :=
    h.map_firstFindings fun _ _ _ _ hvalue => hvalue.symm
  rw [hvalues, names_eq, List.zip_map', entries, List.map_map]
  rfl

theorem name?_addAll {f : Finding} {name : String} (h : m.name? f = some name)
    (later : List Finding) : (m.addAll pool later).1.name? f = some name := by
  obtain ⟨e, he, rfl⟩ := name?_eq_some.1 h
  exact name?_eq_some.2 ⟨e, assigned_addAll he, rfl⟩

theorem After.add_known (h : After reserved m pool seen) {f : Finding}
    (hf : f.key ∈ seen.map (·.key)) :
    (m.add pool f).2 = (m, pool) ∧ m.name? f = some (m.add pool f).1.name := by
  obtain ⟨e, he⟩ := exists_assigned (h.mem_keys.2 hf)
  rw [Mapping.add_known he]
  exact ⟨rfl, name?_eq_some.2 ⟨e, he, rfl⟩⟩

theorem After.add_new (h : After reserved m pool seen) {f : Finding}
    (hf : f.key ∉ seen.map (·.key)) :
    IsNext pool.taken (baseName f.rule) (m.add pool f).1.name ∧
      (m.add pool f).2.1.names = m.names ++ [(m.add pool f).1.name] ∧
      (m.add pool f).2.1.name? f = some (m.add pool f).1.name := by
  have hnone : m.assigned? f = none := assigned_eq_none.2 fun hmem => hf (h.mem_keys.1 hmem)
  refine ⟨?_, ?_, name?_eq_some.2 ⟨_, assigned_add_self m pool f, rfl⟩⟩
  · rw [Mapping.add_new hnone]
    exact allocate_least pool f.rule
  · rw [Mapping.add_new hnone, names_eq, names_eq, List.map_append]
    rfl

/-- After any number of findings there is one entry for every match, in the order in which the
matches were first met. The names of the entries differ from each other and from those that
were reserved. Two findings have one name exactly if they have one match, and they keep it when
others follow. A match that was met before changes nothing, and a new one gets the name that
comes next over the base of its rule, when the reserved names and those of the entries are
taken. -/
theorem names_stable (reserved : NamePool) (seen later : List Finding) :
    let m := (addAll {} reserved seen).1
    let pool := (addAll {} reserved seen).2
    m.byKey.map (·.1) = (seen.map (·.key)).eraseDups ∧
      m.names.Nodup ∧ (∀ name ∈ m.names, name ∉ reserved.taken) ∧
      (∀ f ∈ seen, ∀ g, m.name? f = m.name? g ↔ f.key = g.key) ∧
      (∀ f ∈ seen, ∃ name ∈ m.names, m.name? f = some name ∧
        (addAll {} reserved (seen ++ later)).1.name? f = some name) ∧
      (∀ name, name ∈ pool.taken ↔ name ∈ reserved.taken ∨ name ∈ m.names) ∧
      ∀ f, (f.key ∈ seen.map (·.key) →
          (m.add pool f).2 = (m, pool) ∧ m.name? f = some (m.add pool f).1.name) ∧
        (f.key ∉ seen.map (·.key) → IsNext pool.taken (baseName f.rule) (m.add pool f).1.name ∧
          (m.add pool f).2.1.names = m.names ++ [(m.add pool f).1.name] ∧
          (m.add pool f).2.1.name? f = some (m.add pool f).1.name) := by
  intro m pool
  have h : After reserved m pool seen := after_addAll reserved seen
  refine ⟨h.keys, h.distinct, h.free, fun f hf => h.name?_inj hf, ?_, ?_,
    fun f => ⟨h.add_known, h.add_new⟩⟩
  · intro f hf
    obtain ⟨name, hmem, hname⟩ := h.exists_name hf
    refine ⟨name, hmem, hname, ?_⟩
    rw [addAll_append]
    exact name?_addAll hname later
  · intro name
    rw [h.taken, List.mem_append, List.mem_reverse, or_comm]

/-- Two addresses, where the name that would come next was reserved. -/
theorem names_stable_reserved :
    let found := fun text : String =>
      (⟨"a.js", 1, 1, text, "Database URL", .error, "", "", none, "", ""⟩ : Finding)
    let reserved : NamePool := ⟨["DATABASE_URL_1"]⟩
    let m := (addAll {} reserved [found "redis://a", found "redis://b", found "redis://a"]).1
    let pool := (addAll {} reserved [found "redis://a", found "redis://b", found "redis://a"]).2
    m.names = ["DATABASE_URL", "DATABASE_URL_2"] ∧
      (m.name? (found "redis://a") = m.name? (found "redis://b") ↔
        (found "redis://a").key = (found "redis://b").key) ∧
      IsNext pool.taken "DATABASE_URL" (m.add pool (found "redis://c")).1.name ∧
      (m.add pool (found "redis://c")).1.name = "DATABASE_URL_3" := by
  intro found reserved m pool
  obtain ⟨-, -, -, hsame, -, -, hnext⟩ := names_stable reserved
    [found "redis://a", found "redis://b", found "redis://a"] [found "redis://c"]
  refine ⟨by decide +kernel, hsame _ (by simp) _, ?_, by decide +kernel⟩
  exact ((hnext (found "redis://c")).2 (by decide)).1

end Mapping

end SecretScan.Env

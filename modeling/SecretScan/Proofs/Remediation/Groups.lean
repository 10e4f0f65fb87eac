import SecretScan.Proofs.Env.Mapping
import SecretScan.Remediation.Preview

/-!
# Findings file by file

Findings are put into groups one after another, each into the group of its file or into a new
one at the end. What comes out can be said without the order of the steps: the files in the
order in which they were first met, each with all its findings in their order
(`groupByFile_eq`).
-/

namespace SecretScan.Remediation

theorem addToGroup_new {item : Nat × Finding} {groups : List (String × List (Nat × Finding))}
    (h : item.2.file ∉ groups.map (·.1)) :
    addToGroup item groups = groups ++ [(item.2.file, [item])] := by
  induction groups with
  | nil => rfl
  | cons group groups ih =>
      rw [List.map_cons, List.mem_cons, not_or] at h
      rw [addToGroup, if_neg (Ne.symm h.1), ih h.2]
      rfl

theorem addToGroup_old {item : Nat × Finding} (group : String → List (Nat × Finding))
    {files : List String} (hnodup : files.Nodup) (h : item.2.file ∈ files) :
    addToGroup item (files.map fun file => (file, group file)) =
      files.map fun file => (file, group file ++ if item.2.file = file then [item] else []) := by
  induction files with
  | nil => cases h
  | cons file files ih =>
      rw [List.nodup_cons] at hnodup
      rw [List.map_cons, List.map_cons, addToGroup]
      by_cases heq : file = item.2.file
      · rw [if_pos heq, if_pos heq.symm]
        refine congrArg _ (List.map_congr_left fun other hother => ?_)
        have hne : item.2.file ≠ other := by
          rw [← heq]
          exact (ne_of_mem_of_not_mem hother hnodup.1).symm
        rw [if_neg hne, List.append_nil]
      · rw [if_neg heq, if_neg (Ne.symm heq), List.append_nil,
          ih hnodup.2 ((List.mem_cons.1 h).resolve_left (Ne.symm heq))]

/-- The files in the order of their first findings, each with its own findings. -/
theorem groupByFile_eq (items : List (Nat × Finding)) : groupByFile items =
    (items.map (·.2.file)).eraseDups.map fun file => (file, items.filter (·.2.file = file)) := by
  induction items using List.reverseRecOn with
  | nil => rfl
  | append_singleton items item ih =>
      have hstep : groupByFile (items ++ [item]) = addToGroup item (groupByFile items) := by
        rw [groupByFile, List.foldl_append]
        rfl
      have hgroup : ∀ file, (items ++ [item]).filter (·.2.file = file) =
          items.filter (·.2.file = file) ++ if item.2.file = file then [item] else [] := by
        intro file
        rw [List.filter_append, List.filter_singleton]
        simp
      simp only [hgroup]
      rw [hstep, ih, List.map_append, List.map_singleton, eraseDups_concat]
      split
      · next hmem =>
          rw [List.append_nil]
          exact addToGroup_old _ (nodup_eraseDups _) (List.mem_eraseDups.2 hmem)
      · next hmem =>
          rw [addToGroup_new (by simpa using hmem), List.map_append, List.map_singleton, if_pos rfl]
          have hnone : items.filter (·.2.file = item.2.file) = [] := by
            simpa using hmem
          rw [hnone]
          refine congrArg (· ++ _) (List.map_congr_left fun file hfile => ?_)
          have hne : item.2.file ≠ file :=
            (ne_of_mem_of_not_mem (List.mem_eraseDups.1 hfile) hmem).symm
          rw [if_neg hne, List.append_nil]

theorem files_groupByFile (items : List (Nat × Finding)) :
    (groupByFile items).map (·.1) = (items.map (·.2.file)).eraseDups := by
  rw [groupByFile_eq, List.map_map]
  exact List.map_id _

theorem group_eq {items : List (Nat × Finding)} {group : String × List (Nat × Finding)}
    (h : group ∈ groupByFile items) : group.2 = items.filter (·.2.file = group.1) := by
  rw [groupByFile_eq] at h
  obtain ⟨file, -, rfl⟩ := List.mem_map.1 h
  rfl

@[simp]
theorem map_numbered (findings : List Finding) : (numbered findings).map (·.2) = findings := by
  rw [numbered, List.map_snd_zip (Nat.le_of_eq List.length_range.symm)]

/-- Every file of the findings has its turn, in the order in which they were first met. -/
theorem files_of_groups (findings : List Finding) :
    (groupByFile (numbered findings)).map (·.1) = (findings.map (·.file)).eraseDups := by
  have hfiles : (numbered findings).map (·.2.file) =
      ((numbered findings).map (·.2)).map (·.file) := (List.map_map ..).symm
  rw [files_groupByFile, hfiles, map_numbered]

theorem file_of_group {findings : List Finding} {file : String}
    (h : file ∈ (groupByFile (numbered findings)).map (·.1)) : ∃ f ∈ findings, f.file = file := by
  rw [files_of_groups, List.mem_eraseDups] at h
  exact List.mem_map.1 h

end SecretScan.Remediation

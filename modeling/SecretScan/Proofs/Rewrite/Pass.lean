import SecretScan.Catalog.Secrets
import SecretScan.Remediation.Preview
import SecretScan.Rewrite.Source
import SecretScan.Scan.Content

/-!
# A pass over one text

A run gives every finding of every file a variable first and then rewrites one file
after another. For a single text that is one pass: the text is scanned for secrets, the
variables are given out, and the literals of the findings are replaced.
-/

namespace SecretScan

namespace Remediation

theorem numbered_nodup (findings : List Finding) : ((numbered findings).map (·.1)).Nodup := by
  rw [numbered, List.map_fst_zip (Nat.le_of_eq List.length_range)]
  exact List.nodup_range

theorem mem_numbered {findings : List Finding} {i : Nat} {f : Finding} :
    (i, f) ∈ numbered findings ↔ findings[i]? = some f := by
  rw [numbered, List.mem_iff_getElem?]
  simp only [List.getElem?_zip_eq_some]
  constructor
  · rintro ⟨k, hk, hf⟩
    obtain ⟨_, rfl⟩ := List.getElem?_eq_some_iff.1 hk
    rwa [List.getElem_range]
  · intro hf
    have hlt := (List.getElem?_eq_some_iff.1 hf).1
    exact ⟨i, List.getElem?_range hlt, hf⟩

end Remediation

namespace Rewrite

/-- The secrets in a text. -/
def secretsIn (path : String) (s : List Char) : List Finding :=
  Scan.content Secrets.catalog .all path (String.ofList s)

/-- The variables for the secrets in a text. -/
def variablesFor (path : String) (s : List Char) : Env.Mapping :=
  Env.Mapping.ofFindings (secretsIn path s)

/-- A text whose own secrets were rewritten. -/
def pass (path : String) (s : List Char) : Except String NewSource :=
  source (variablesFor path s) (FilePath.ofString path) s
    (Remediation.numbered (secretsIn path s))

theorem source_shape {mapping : Env.Mapping} {file : FilePath} {s : List Char}
    {findings : List (Nat × Finding)} {new : NewSource}
    (h : source mapping file s findings = .ok new) :
    new.resolved = (literalsIn mapping file s findings).resolved ∧
      (new.text = (literalsIn mapping file s findings).text ∨ (file.kind = lookupSuffix ∧
        Script.withVariables (literalsIn mapping file s findings).text = .ok new.text)) := by
  simp only [source] at h
  split at h
  · obtain rfl := Except.ok.inj h
    exact ⟨rfl, Or.inl rfl⟩
  · next hpython =>
      cases hvariables : Script.withVariables (literalsIn mapping file s findings).text with
      | error e => rw [hvariables] at h; cases h
      | ok t =>
          rw [hvariables] at h
          obtain rfl := Except.ok.inj h
          have hkind : file.kind = lookupSuffix := by
            simp only [Bool.or_eq_true, decide_eq_true_eq, not_or, Decidable.not_not] at hpython
            exact hpython.2
          exact ⟨rfl, Or.inr ⟨hkind, rfl⟩⟩

/-- A script is refused where literals were replaced in it, so that it has to import something,
and its new text has a null character. -/
structure Refused (mapping : Env.Mapping) (file : FilePath) (s : List Char)
    (findings : List (Nat × Finding)) : Prop where
  script : file.kind = lookupSuffix
  edited : (literalsIn mapping file s findings).edits ≠ []
  null : '\x00' ∈ (literalsIn mapping file s findings).text

instance (mapping : Env.Mapping) (file : FilePath) (s : List Char)
    (findings : List (Nat × Finding)) : Decidable (Refused mapping file s findings) :=
  decidable_of_iff (_ ∧ _ ∧ _) ⟨fun ⟨h, h', h''⟩ => ⟨h, h', h''⟩, fun ⟨h, h', h''⟩ => ⟨h, h', h''⟩⟩

theorem withVariables_eq_error {s : List Char} {message : String} :
    Script.withVariables s = .error message ↔ '\x00' ∈ s ∧ message = Script.nullMessage := by
  rw [Script.withVariables]
  split
  · next hnull => simp [List.contains_iff_mem.1 hnull, eq_comm]
  · next hnull =>
      have hnull : '\x00' ∉ s := by simpa using hnull
      simp only [hnull, false_and, iff_false]
      split
      · exact nofun
      · split <;> exact nofun

theorem source_eq_error {mapping : Env.Mapping} {file : FilePath} {s : List Char}
    {findings : List (Nat × Finding)} {message : String} :
    source mapping file s findings = .error message ↔
      Refused mapping file s findings ∧ message = Script.nullMessage := by
  simp only [source]
  split
  · next hplain =>
      refine ⟨nofun, fun ⟨hrefused, _⟩ => ?_⟩
      simp only [Bool.or_eq_true, decide_eq_true_eq, List.isEmpty_iff] at hplain
      exact (hplain.elim hrefused.edited (absurd hrefused.script)).elim
  · next hscript =>
      simp only [Bool.or_eq_true, decide_eq_true_eq, List.isEmpty_iff, not_or,
        Decidable.not_not] at hscript
      cases hvariables : Script.withVariables (literalsIn mapping file s findings).text with
      | ok text =>
          refine ⟨nofun, fun ⟨hrefused, _⟩ => ?_⟩
          have hnull := withVariables_eq_error.2 ⟨hrefused.null, rfl⟩
          rw [hvariables] at hnull
          cases hnull
      | error e =>
          obtain ⟨hnull, rfl⟩ := withVariables_eq_error.1 hvariables
          constructor
          · rintro h
            cases h
            exact ⟨⟨hscript.2, hscript.1, hnull⟩, rfl⟩
          · rintro ⟨-, rfl⟩
            rfl

theorem exists_source {mapping : Env.Mapping} {file : FilePath} {s : List Char}
    {findings : List (Nat × Finding)}
    (h : file.kind = lookupSuffix → '\x00' ∉ (literalsIn mapping file s findings).text) :
    ∃ new, source mapping file s findings = .ok new := by
  cases hsource : source mapping file s findings with
  | ok new => exact ⟨new, rfl⟩
  | error message =>
      obtain ⟨hrefused, -⟩ := source_eq_error.1 hsource
      exact absurd hrefused.null (h hrefused.script)

end Rewrite

end SecretScan

import SecretScan.Proofs.Catalog.Secret
import SecretScan.Proofs.Env.Mapping

/-!
# A variable holds the secret of every finding that it stands for

Findings share a variable if they share a match, and the variable holds the value of the
first of them. Nothing gets lost by that: the value of a finding can be read off its match
(`value_eq_secretIn`), so all findings with one match have one value, whichever rules found
them and in whichever files.
-/

namespace SecretScan.Remediation

open Text

/-- The secrets in some files, each of them given by its path and its text. -/
def secretsOf (filter : SeverityFilter) (files : List (String × String)) : List Finding :=
  files.flatMap fun file => Scan.content Secrets.catalog filter file.1 file.2

theorem value_eq_secretIn {filter : SeverityFilter} {path text : String} {f : Finding}
    (h : f ∈ Scan.content Secrets.catalog filter path text) :
    f.value = String.ofList (Secrets.secretIn f.key.toList) := by
  obtain ⟨k, line, -, rule, hrule, m, hm, hreported, rfl⟩ := (Scan.mem_content rfl).1 h
  rw [Secrets.value_ruleFinding (List.mem_filter.1 hrule).1 hm hreported,
    Scan.key_ruleFinding hreported, String.toList_ofList]

/-- Where the value of a finding is the secret in its match, the entry of a finding holds the
value of that finding, and no other entry has its name. -/
theorem entry_holds {findings : List Finding}
    (h : ∀ f ∈ findings, f.value = String.ofList (Secrets.secretIn f.key.toList)) {f : Finding}
    (hf : f ∈ findings) : ∃ e ∈ (Env.Mapping.ofFindings findings).entries,
      (Env.Mapping.ofFindings findings).name? f = some e.name ∧ e.value = f.value ∧
      ∀ e' ∈ (Env.Mapping.ofFindings findings).entries, e'.name = e.name → e' = e := by
  obtain ⟨e, he, hname, ⟨g, hg, hkey, hvalue⟩, honly⟩ := Env.Mapping.ofFindings_entry {} hf
  refine ⟨e, he, hname, ?_, honly⟩
  rw [hvalue, h g hg, hkey, ← h f hf]

/-- The entry whose name a finding is given holds the value of that finding, and findings
with the same match have the same value. -/
theorem variables_hold_secrets (filter : SeverityFilter) (files : List (String × String))
    {f : Finding} (hf : f ∈ secretsOf filter files) :
    (∃ e ∈ (Env.Mapping.ofFindings (secretsOf filter files)).entries,
      (Env.Mapping.ofFindings (secretsOf filter files)).name? f = some e.name ∧
      e.value = f.value ∧
      ∀ e' ∈ (Env.Mapping.ofFindings (secretsOf filter files)).entries,
        e'.name = e.name → e' = e) ∧
    ∀ g ∈ secretsOf filter files, g.key = f.key → g.value = f.value := by
  have hvalue : ∀ g ∈ secretsOf filter files,
      g.value = String.ofList (Secrets.secretIn g.key.toList) := by
    intro g hg
    obtain ⟨file, -, hg⟩ := List.mem_flatMap.1 hg
    exact value_eq_secretIn hg
  refine ⟨entry_holds hvalue hf, ?_⟩
  intro g hg hkey
  rw [hvalue g hg, hkey, ← hvalue f hf]

/-- A key that stands in two files. -/
theorem variables_hold_secrets_two_files :
    let files := [("a.js", "apiKey: 'abcdefghijklmnop'"), ("b.py", "#\napiKey: 'abcdefghijklmnop'")]
    ∃ f ∈ secretsOf .all files, f.file = "b.py" ∧
      (∃ e ∈ (Env.Mapping.ofFindings (secretsOf .all files)).entries,
        (Env.Mapping.ofFindings (secretsOf .all files)).name? f = some e.name ∧
        e.value = f.value ∧
        ∀ e' ∈ (Env.Mapping.ofFindings (secretsOf .all files)).entries,
          e'.name = e.name → e' = e) ∧
      ∀ g ∈ secretsOf .all files, g.key = f.key → g.value = f.value := by
  intro files
  have hfound : ∃ f ∈ secretsOf .all files, f.file = "b.py" := by decide +kernel
  obtain ⟨f, hf, hfile⟩ := hfound
  exact ⟨f, hf, hfile, variables_hold_secrets .all files hf⟩

end SecretScan.Remediation

import SecretScan.Proofs.Rewrite.ImportLine
import SecretScan.Proofs.Rewrite.Unresolved

/-!
# What a second scan finds

After a text was rewritten, another scan may find what the first one did not: a seam brings
together what was apart, and what a match hid may come to light when the match is gone.
Both need a rule that reaches up to a seam, and a line that was changed. All other findings
of the second scan are findings of the first one that stayed unresolved.
-/

namespace SecretScan

namespace Rewrite

open Pattern Secrets Text Env

/-- Whether a rule may find something new where a file of some kind was rewritten. Where
the quotes of literals stay, only rules that consume quotes can; where they go, all can but
those for which a reference is sealed off. -/
def isExposed (file : FilePath) (rule : String) : Bool :=
  if objectSuffixes.contains file.kind then
    !(["AWS Access Key ID", "Private Key"].contains rule)
  else if file.kind = lookupSuffix then
    !(["API Key (Generic)", "AWS Access Key ID", "Private Key"].contains rule)
  else ["AWS Secret Key", "Password in Code"].contains rule

/-- A finding is known from another text, where it was not resolved: some finding there has
the same rule and the same match. -/
def Unresolved (path : String) (s : List Char) (resolved : List Nat) (g : Finding) : Prop :=
  ∃ i f, (i, f) ∈ Remediation.numbered (secretsIn path s) ∧ i ∉ resolved ∧ f.rule = g.rule ∧
    f.key = g.key

/-- A line of a text of whose findings none was resolved. -/
def KeptLine (path : String) (s : List Char) (resolved : List Nat) (line : List Char) : Prop :=
  ∃ k : Nat, (lines s)[k]? = some line ∧
    ∀ i f, (i, f) ∈ Remediation.numbered (secretsIn path s) → f.line = (1 + k : Nat) → i ∉ resolved

/-! ## Kept lines -/

/-- What is found on a line that was kept was found there before. -/
theorem unresolved_of_keptLine {path : String} {s t : List Char} {resolved : List Nat} {g : Finding}
    (hg : g ∈ secretsIn path t) {k : Nat} {line : List Char} (hk : g.line = (1 + k : Nat))
    (hline : (lines t)[k]? = some line) (hkept : KeptLine path s resolved line) :
    Unresolved path s resolved g := by
  obtain ⟨k', line', hline', rule, hrule, m, hm, hreported, rfl⟩ := mem_secretsIn.1 hg
  have hnumber : ((1 + k' : Nat) : Int) = (1 + k : Nat) := hk
  obtain rfl : k' = k := by omega
  obtain rfl : line' = line := Option.some.inj (hline'.symm.trans hline)
  obtain ⟨j, hj, hunresolved⟩ := hkept
  have hf : Scan.ruleFinding path (1 + j) rule m ∈ secretsIn path s :=
    mem_secretsIn.2 ⟨j, line', hj, rule, hrule, m, hm, hreported, rfl⟩
  obtain ⟨i, hi⟩ := List.getElem?_of_mem hf
  have hi := Remediation.mem_numbered.2 hi
  refine ⟨i, _, hi, hunresolved i _ hi rfl, rfl, ?_⟩
  rw [Scan.key_ruleFinding hreported, Scan.key_ruleFinding hreported]

/-! ## Rules that are not exposed -/

/-- What is matched outside of the bodies of the literals is not resolved. -/
theorem unresolved_of_spot {path : String} {s : List Char} {rs : List Replaced}
    {resolved : List Nat} {mapping : Env.Mapping} (hperm : (rs.map (·.index)).Perm resolved)
    (hrs : ∀ r ∈ rs, Justified mapping s (Remediation.numbered (secretsIn path s)) r)
    {rule : Rule} (hrule : rule ∈ rules) {a : Nat} {w : List Char}
    (h : (a, w) ∈ textSpots rule.pattern 0 s) (hout : Outside rs a w.length)
    (hreported : isReportedText w = true) {g : Finding} (hname : g.rule = rule.name)
    (hkey : g.key = String.ofList w) : Unresolved path s resolved g := by
  obtain ⟨f, hf, hfrule, hstands⟩ := finding_of_spot hrule h hreported path
  obtain ⟨i, hi⟩ := List.getElem?_of_mem hf
  refine ⟨i, f, Remediation.mem_numbered.2 hi, ?_, hfrule.trans hname.symm,
    hstands.key.trans hkey.symm⟩
  intro hresolved
  obtain ⟨r, hr, rfl⟩ := List.mem_map.1 (hperm.mem_iff.2 hresolved)
  have hjust := hrs r hr
  have hgiven := Remediation.mem_numbered.1 hjust.given
  obtain rfl : f = r.finding := Option.some.inj (hi.symm.trans hgiven)
  -- the finding lies within its literal
  obtain ⟨j, n, hj, hn, hlo, hhi⟩ := hjust.encloses
  obtain ⟨k, n', hk, hn', ha⟩ := hstands.line
  obtain rfl : j = k := by omega
  obtain rfl := hn.unique hn'
  have hlen : r.finding.key.length = w.length := by
    rw [hstands.key, String.length_ofList]
  obtain ⟨u, v, hs, hu, -⟩ := textSpots_occurs h
  rw [Nat.zero_add] at hu
  have hne : w ≠ [] := by
    rintro rfl
    simp [isReportedText] at hreported
  rw [hlen] at hhi
  obtain ⟨x, y, heq⟩ := factor_of_outside hjust.found.literal_prefix hs hne (by omega) (by omega)
    (hu ▸ hout r hr)
  exact no_match_before_body hjust.found hrule hfrule h hne heq

/-- A rule that is not exposed matches in the new text what it matched in the old one,
outside of the bodies of the literals. -/
theorem spots_of_sheltered {file : FilePath} {rule : Rule} (hrule : rule ∈ rules)
    (hsheltered : isExposed file rule.name = false) {s t : List Char} {rs : List Replaced}
    (hreplaces : Replaces file 0 rs s t)
    (hrs : ∀ r ∈ rs, IsQuote r.quote ∧ IsName r.variableName) {a' : Nat} {w : List Char}
    (h : (a', w) ∈ textSpots rule.pattern 0 t) :
    ∃ a, (a, w) ∈ textSpots rule.pattern 0 s ∧ Outside rs a w.length := by
  have hids : ∀ rule ∈ rules,
      (rule.name = "AWS Access Key ID" → rule.pattern = awsKeyIdPattern) ∧
      (rule.name = "Private Key" → rule.pattern = privateKeyPattern) ∧
      (rule.name = "API Key (Generic)" → rule.pattern = apiKeyPattern) := by
    decide +kernel
  have hquoted : ∀ rule ∈ rules, rule.name ∉ ["API Key (Generic)", "AWS Access Key ID",
      "AWS Secret Key", "Password in Code"] → rule.pattern.shuns true quotes = true ∧
        rule.pattern.eats = true ∧ rule.pattern.needs bracedAlphabet = true := by
    decide +kernel
  have hedge : ∀ r ∈ rs, r.quote ∈ edgeChars ∧ (false = true → Text.isWord r.quote = false) := by
    intro r hr
    rcases (hrs r hr).1 with hq | hq <;> rw [hq] <;> exact ⟨by decide, by simp⟩
  by_cases hid : rule.name = "AWS Access Key ID"
  · rw [(hids rule hrule).1 hid] at h ⊢
    exact textSpots_replaces (by decide +kernel) (by decide) hreplaces (fun r hr =>
      ⟨hedge r hr, awsKeyId_sealed file (hrs r hr).1 (hrs r hr).2⟩) h
  by_cases hprivate : rule.name = "Private Key"
  · rw [(hids rule hrule).2.1 hprivate] at h ⊢
    exact textSpots_replaces (by decide +kernel) (by decide) hreplaces (fun r hr =>
      ⟨hedge r hr, privateKey_sealed file (hrs r hr).1 (hrs r hr).2⟩) h
  cases hobject : objectSuffixes.contains file.kind with
  | true =>
      rw [isExposed, if_pos hobject] at hsheltered
      simp [hid, hprivate] at hsheltered
  | false =>
      rw [isExposed, if_neg (by simpa using hobject)] at hsheltered
      by_cases hapi : rule.name = "API Key (Generic)"
      · rw [(hids rule hrule).2.2 hapi] at h ⊢
        obtain ⟨u, v, ht, -, hbreak⟩ := textSpots_occurs h
        have hread := reads_of_textSpots (by decide) h
        obtain ⟨u', v', hs, hout⟩ := apiKey_replaces hread hobject hreplaces hrs ht
        rw [hs]
        exact ⟨_, mem_textSpots_of_reads (by decide) (by decide) apiKey_separate hread hbreak v' 0,
          hout⟩
      · by_cases hlookup : file.kind = lookupSuffix
        · rw [if_pos hlookup] at hsheltered
          simp [hid, hprivate, hapi] at hsheltered
        · rw [if_neg hlookup] at hsheltered
          have hother : rule.name ≠ "AWS Secret Key" ∧ rule.name ≠ "Password in Code" := by
            simpa using hsheltered
          obtain ⟨hshuns, heats, hneeds⟩ := hquoted rule hrule (by simp [hid, hapi, hother])
          refine textSpots_replaces hshuns heats hreplaces ?_ h
          intro r hr
          obtain ⟨hquote, hname⟩ := hrs r hr
          refine ⟨⟨mem_quotes hquote, fun _ => ?_⟩,
            quoted_sealed hshuns heats hneeds hobject hlookup hquote hname⟩
          rcases hquote with hq | hq <;> rw [hq] <;> decide

/-- A rule that is not exposed does not notice a line that imports. -/
theorem spots_of_import {file : FilePath} (hfile : file.kind = lookupSuffix) {rule : Rule}
    (hrule : rule ∈ rules) (hsheltered : isExposed file rule.name = false) {s t : List Char}
    (h : Script.withVariables s = .ok t) {a' : Nat} {w : List Char}
    (hw : (a', w) ∈ textSpots rule.pattern 0 t) : ∃ a, (a, w) ∈ textSpots rule.pattern 0 s := by
  have hids : ∀ rule ∈ rules, rule.name ∈ ["API Key (Generic)", "AWS Access Key ID",
      "Private Key"] → rule.pattern = apiKeyPattern ∨ (rule.pattern.shuns false edgeChars = true ∧
        rule.pattern.eats = true ∧ rule.pattern.needs importAlphabet = true) := by
    decide +kernel
  have hname : rule.name ∈ ["API Key (Generic)", "AWS Access Key ID", "Private Key"] := by
    rw [isExposed, if_neg (by rw [hfile]; decide), if_pos hfile] at hsheltered
    simpa only [Bool.not_eq_false', List.contains_iff_mem] using hsheltered
  rcases Script.withVariables_importsAt h with rfl | ⟨x, y, ins, rfl, rfl, hins⟩
  · exact ⟨a', hw⟩
  · rcases hids rule hrule hname with hapi | ⟨hshuns, heats, hneeds⟩
    · rw [hapi] at hw ⊢
      obtain ⟨u, v, ht, -, hbreak⟩ := textSpots_occurs hw
      have hread := reads_of_textSpots (by decide) hw
      obtain ⟨u', v', hs⟩ := apiKey_import hread hbreak hins ht
      rw [hs]
      exact ⟨_, mem_textSpots_of_reads (by decide) (by decide) apiKey_separate hread hbreak v' 0⟩
    · exact textSpots_import hshuns heats hneeds hins hw

/-! ## The second scan -/

/-- What a rule that is not exposed finds in the new text, stayed unresolved. -/
theorem unresolved_of_sheltered {path : String} {s : List Char} {new : NewSource}
    (h : pass path s = .ok new) {g : Finding} (hg : g ∈ secretsIn path new.text)
    (hsheltered : isExposed (FilePath.ofString path) g.rule = false) :
    Unresolved path s new.resolved g := by
  obtain ⟨rs, hreplaces, hperm, -, hrs⟩ := literalsIn_justified (variablesFor path s)
    (FilePath.ofString path) s (Remediation.numbered (secretsIn path s))
  obtain ⟨hresolved, htext⟩ := source_shape h
  rw [hresolved]
  obtain ⟨rule, hrule, a', w, hw, hreported, hname, hstands⟩ := spot_of_finding hg
  rw [hname] at hsheltered
  have hspot : ∃ a, (a, w) ∈ textSpots rule.pattern 0 (literalsIn (variablesFor path s)
      (FilePath.ofString path) s (Remediation.numbered (secretsIn path s))).text := by
    rcases htext with htext | ⟨hkind, htext⟩
    · exact ⟨a', htext ▸ hw⟩
    · exact spots_of_import hkind hrule hsheltered htext hw
  obtain ⟨a'', hw⟩ := hspot
  have hrs' : ∀ r ∈ rs, IsQuote r.quote ∧ IsName r.variableName := fun r hr =>
    ⟨(hrs r hr).found.isQuote, (Env.Mapping.ofFindings_named _).of_name? (hrs r hr).named⟩
  obtain ⟨a, ha, hout⟩ := spots_of_sheltered hrule hsheltered hreplaces hrs' hw
  exact unresolved_of_spot hperm hrs hrule ha hout hreported hname hstands.key

/-- Everything that a second scan finds stayed unresolved, but for what an exposed rule finds
on a line that did not come through unchanged. -/
theorem pass_findings {path : String} {s : List Char} {new : NewSource}
    (h : pass path s = .ok new) {g : Finding} (hg : g ∈ secretsIn path new.text) :
    Unresolved path s new.resolved g ∨
      (isExposed (FilePath.ofString path) g.rule = true ∧
        ∀ (k : Nat) (line : List Char), g.line = (1 + k : Nat) →
          (lines new.text)[k]? = some line → ¬ KeptLine path s new.resolved line) := by
  by_cases hunresolved : Unresolved path s new.resolved g
  · exact Or.inl hunresolved
  · refine Or.inr ⟨?_, ?_⟩
    · cases hexposed : isExposed (FilePath.ofString path) g.rule with
      | true => rfl
      | false => exact absurd (unresolved_of_sheltered h hg hexposed) hunresolved
    · intro k line hk hline hkept
      exact hunresolved (unresolved_of_keptLine hg hk hline hkept)

/-- A password that is found anew, and a mail address that was left where it is. -/
theorem pass_findings_left_mail :
    ∃ new g, pass "a.yaml" "pwd: \"redis://h\"\na@b.co".toList = .ok new ∧
      g ∈ secretsIn "a.yaml" new.text ∧ g.rule = "Email Address" ∧
        (Unresolved "a.yaml" "pwd: \"redis://h\"\na@b.co".toList new.resolved g ∨
          (isExposed (FilePath.ofString "a.yaml") g.rule = true ∧
            ∀ (k : Nat) (line : List Char), g.line = (1 + k : Nat) →
              (lines new.text)[k]? = some line →
                ¬ KeptLine "a.yaml" "pwd: \"redis://h\"\na@b.co".toList new.resolved line)) := by
  have hpass : pass "a.yaml" "pwd: \"redis://h\"\na@b.co".toList =
      .ok ⟨"pwd: \"$\x7bDATABASE_URL\x7d\"\na@b.co".toList, [0]⟩ := by
    decide +kernel
  have hfound : ∃ g ∈ secretsIn "a.yaml" "pwd: \"$\x7bDATABASE_URL\x7d\"\na@b.co".toList,
      g.rule = "Email Address" := by
    decide +kernel
  obtain ⟨g, hg, hrule⟩ := hfound
  exact ⟨_, g, hpass, hg, hrule, pass_findings hpass hg⟩

/-- Not everything that a second scan finds stayed unresolved, in a file of data or in a code
file; and a second pass may replace a literal that the first one did not find. -/
theorem pass_may_find_more :
    (∃ new g, pass "a.yaml" "pwd: \"redis://h\"".toList = .ok new ∧
      g ∈ secretsIn "a.yaml" new.text ∧
        ¬ Unresolved "a.yaml" "pwd: \"redis://h\"".toList new.resolved g) ∧
    (∃ new g, pass "a.js" "Bearer \"a@b.co\"".toList = .ok new ∧
      g ∈ secretsIn "a.js" new.text ∧
        ¬ Unresolved "a.js" "Bearer \"a@b.co\"".toList new.resolved g) ∧
    ∃ new new', pass "a.txt" "\"a@b.co\"c@d.ee\"".toList = .ok new ∧
      pass "a.txt" new.text = .ok new' ∧ new'.resolved ≠ [] := by
  have hnew : ∀ {path : String} {s : List Char} {new : NewSource} {rule : String},
      pass path s = .ok new → (∃ g ∈ secretsIn path new.text, g.rule = rule) →
      (∀ f ∈ secretsIn path s, f.rule = rule → ∀ g ∈ secretsIn path new.text, f.key ≠ g.key) →
      ∃ new g, pass path s = .ok new ∧ g ∈ secretsIn path new.text ∧
        ¬ Unresolved path s new.resolved g := by
    rintro path s new rule hpass ⟨g, hg, rfl⟩ hnone
    refine ⟨new, g, hpass, hg, ?_⟩
    rintro ⟨i, f, hf, -, hrule, hkey⟩
    have hmem := List.mem_of_getElem? (Remediation.mem_numbered.1 hf)
    exact hnone f hmem hrule g hg hkey
  refine ⟨?_, ?_, ?_⟩
  · exact @hnew _ _ ⟨"pwd: \"$\x7bDATABASE_URL\x7d\"".toList, [0]⟩ "Password in Code"
      (by decide +kernel) (by decide +kernel) (by decide +kernel)
  · exact @hnew _ _ ⟨"Bearer process.env.CONTACT_EMAIL".toList, [0]⟩ "Bearer Token"
      (by decide +kernel) (by decide +kernel) (by decide +kernel)
  · exact ⟨⟨"\"$\x7bCONTACT_EMAIL\x7d\"c@d.ee\"".toList, [0]⟩,
      ⟨"\"$\x7bCONTACT_EMAIL\x7d\"$\x7bCONTACT_EMAIL\x7d\"".toList, [0]⟩,
      by decide +kernel, by decide +kernel, by decide⟩

end Rewrite

end SecretScan

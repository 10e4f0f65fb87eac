import SecretScan.Proofs.Env.Mapping
import SecretScan.Proofs.Pattern.Empty
import SecretScan.Proofs.Rule.Entries
import SecretScan.Proofs.Scan.Order

/-!
# What loaded rules find

A rule that was loaded does not match the empty text. A scan still drops a match that is empty, and
a rule all of whose matches are empty finds nothing; that takes a pattern that leans, or one that
both gives up ways and depends on its groups (`loadFrom_reports`). Every other match is reported.

What a finding says about its secret depends on the names in the pattern of its rule. A group that
is called `secret` holds the secret in the catalog of secrets, and it does so in a loaded rule as
well; the secret is the whole match where there is no such group (`loadFrom_secret_iff`).
-/

namespace SecretScan

open Text (lines)

/-- A match of a rule on a line of a text, which a scan of the text reports. -/
structure Reported (catalog : Catalog) (filter : SeverityFilter) (text : String) (rule : Rule)
    (number : Nat) (m : Match) : Prop where
  listed : rule ∈ catalog.rules
  passes : filter.passes rule.severity = true
  onLine : ∃ k line, number = 1 + k ∧ (lines text.toList)[k]? = some line ∧
    m ∈ rule.pattern.allIn line
  reported : Scan.isReported catalog.suppress m = true

theorem Reported.found {catalog : Catalog} {filter : SeverityFilter} {text : String} {rule : Rule}
    {number : Nat} {m : Match} (h : Reported catalog filter text rule number m) (file : String) :
    Scan.ruleFinding file number rule m ∈ Scan.content catalog filter file text := by
  obtain ⟨k, line, rfl, hline, hm⟩ := h.onLine
  rw [(Scan.content_perm catalog filter file text).mem_iff, List.mem_append, Scan.mem_ofRules]
  have hrule : rule ∈ (catalog.passing filter).rules := List.mem_filter.2 ⟨h.listed, h.passes⟩
  exact .inl ⟨k, line, hline, rule, hrule, m, hm, h.reported, rfl⟩

namespace Rule

open Yaml (Document SetOrder)

variable {source text : String} {rules : List Rule} {rule : Rule}

/-- A rule that was loaded is what an entry of its document says. -/
theorem exists_makes [SetOrder] (hload : loadFrom source text = .ok rules) (hrule : rule ∈ rules) :
    ∃ document items entry, Document.ofText text = .ok document ∧ entries document = .ok items ∧
      entry ∈ items ∧ Makes entry rule := by
  rw [loadFrom_eq_ok, load] at hload
  split at hload
  case h_5 document hdocument =>
    obtain ⟨items, hitems, hload⟩ := bind_eq_ok.1 hload
    obtain ⟨hmade, -, -⟩ := ofEntries_eq_ok.1 hload
    obtain ⟨i, hi, rfl⟩ := List.getElem_of_mem hrule
    have hi' : i < items.length := hmade.length_eq ▸ hi
    exact ⟨document, items, items[i], hdocument, hitems, List.getElem_mem hi', hmade.get hi' hi⟩
  all_goals cases hload

/-! ## Empty matches -/

/-- **What is dropped.** No match of a loaded rule is empty, unless its pattern leans, or gives up
ways and depends on its groups. All matches that are not empty are reported by a scan that does not
look for placeholders. -/
theorem loadFrom_reports [SetOrder] (hload : loadFrom source text = .ok rules)
    (hrule : rule ∈ rules) :
    (rule.pattern.leans = false → rule.pattern.mixes = false →
      ∀ line, ∀ m ∈ rule.pattern.allIn line, m.text ≠ []) ∧
      ∀ (catalog : Catalog) (filter : SeverityFilter) (file content : String),
        rule ∈ catalog.rules → catalog.suppress = false → filter.passes rule.severity = true →
        ∀ k line, (lines content.toList)[k]? = some line →
          ∀ m ∈ rule.pattern.allIn line, m.text ≠ [] →
            Scan.ruleFinding file (1 + k) rule m ∈ Scan.content catalog filter file content := by
  obtain ⟨-, -, entry, -, -, -, hmakes⟩ := exists_makes hload hrule
  refine ⟨fun hleans hmixes line m hm hempty => ?_, ?_⟩
  · have hoccurs := Pattern.occursIn_nothing hleans hmixes (Pattern.allIn_matchIn hm) hempty
    rw [hmakes.solid] at hoccurs
    cases hoccurs
  · intro catalog filter file content hlisted hsuppress hpasses k line hline m hm hsome
    have hreported : Scan.isReported catalog.suppress m = true := by
      rw [Scan.isReported, hsuppress, Bool.false_and, Bool.not_false, Bool.and_true,
        Bool.not_eq_true', List.isEmpty_eq_false_iff]
      exact hsome
    exact Reported.found ⟨hlisted, hpasses, ⟨k, line, rfl, hline, hm⟩, hreported⟩ file

/-- An entry with a name and a pattern. -/
def entryOf (name written : String) : String :=
  "- \x7bname: " ++ name ++ ", pattern: '" ++ written ++ "', severity: error, message: m\x7d\n"

/-- A key, at the edge of a word, with or without something behind it. -/
def edgeKey : Rule where
  name := "Key"
  pattern := .seq (.anchor (.boundary .unicode false)) (.seq (.text "k")
    (.optional (.group 1 (.text "=v"))))
  severity := .error
  message := "m"
  fix := defaultFix

/-- It asks about the text around a place, but where it may match nothing it does not. -/
theorem loadFrom_reports_edgeKey :
    loadFrom "rules.yml" (entryOf "Key" "\\bk(=v)?") = .ok [edgeKey] ∧
      edgeKey.pattern.leans = false ∧ edgeKey.pattern.mixes = false ∧
      ∀ line, ∀ m ∈ edgeKey.pattern.allIn line, m.text ≠ [] := by
  have hload : loadFrom "rules.yml" (entryOf "Key" "\\bk(=v)?") = .ok [edgeKey] := by
    decide +kernel
  exact ⟨hload, rfl, rfl, (loadFrom_reports hload List.mem_cons_self).1 rfl rfl⟩

/-- The edge of a word. -/
def edge : Rule where
  name := "Edge"
  pattern := .anchor (.boundary .unicode false)
  severity := .error
  message := "m"
  fix := defaultFix

/-- A choice that is final and cannot be gone on with where there is no text. -/
def choice : Rule where
  name := "Choice"
  pattern := .seq (.atomic (.alt
      (.seq (.atomic (.alt (.group 1 (.text "a")) (.group 2 .empty))) (.again .exact 2))
      (.group 3 .empty)))
    (.again .exact 3)
  severity := .error
  message := "m"
  fix := defaultFix

/-- Two rules that are loaded and match on a line, and of which a scan reports nothing. -/
theorem loadFrom_inert :
    loadFrom "rules.yml" (entryOf "Edge" "\\b" ++ entryOf "Choice" "(?>(?>(a)|())\\2|())\\3") =
        .ok [edge, choice] ∧
      (∀ rule ∈ [edge, choice], ∃ m ∈ rule.pattern.allIn ['a'], m.text = []) ∧
      Scan.content { Secrets.catalog with rules := [edge, choice], suppress := false } .all "a.js"
        "a" = [] := by
  decide +kernel

/-! ## The secret of a finding -/

/-- What a group called `secret` matched, or else the whole match. -/
def secretText (rule : Rule) (m : Match) : List Char :=
  match rule.secretGroup.bind m.group? with
  | some (c :: rest) => c :: rest
  | _ => m.text

theorem secretText_eq_text_iff (rule : Rule) (m : Match) : rule.secretText m = m.text ↔
    ∀ group x, rule.secretGroup = some group → m.group? group = some x → x = [] ∨ x = m.text := by
  rw [secretText]
  constructor
  · intro h group x hgroup hx
    rw [hgroup, Option.bind_some, hx] at h
    cases x with
    | nil => exact .inl rfl
    | cons c rest => exact .inr h
  · intro h
    split
    · next c rest hheld =>
        obtain ⟨group, hgroup, hx⟩ := Option.bind_eq_some_iff.1 hheld
        exact (h group _ hgroup hx).resolve_left (List.cons_ne_nil c rest)
    · rfl

theorem value_eq_secretText {suppress : Bool} {m : Match} (h : Scan.isReported suppress m = true)
    (file : String) (number : Nat) (rule : Rule) :
    (Scan.ruleFinding file number rule m).value = String.ofList (rule.secretText m) := by
  have hsome : m.text ≠ [] := by
    rintro hnone
    simp [Scan.isReported, hnone] at h
  have hsecret : (Scan.ruleFinding file number rule m).secret =
      String.ofList (rule.secretText m) := by
    rw [Scan.ruleFinding, secretText]
    cases rule.secretGroup.bind m.group? with
    | none => rfl
    | some held => cases held <;> rfl
  have hne : rule.secretText m ≠ [] := by
    rw [secretText]
    split
    · exact List.cons_ne_nil _ _
    · exact hsome
  rw [Finding.value, hsecret]
  exact if_neg fun heq => hne (String.ofList_injective heq)

theorem value_eq_key_iff {suppress : Bool} {m : Match} (h : Scan.isReported suppress m = true)
    (file : String) (number : Nat) (rule : Rule) :
    (Scan.ruleFinding file number rule m).value = (Scan.ruleFinding file number rule m).key ↔
      rule.secretText m = m.text := by
  rw [value_eq_secretText h, Scan.key_ruleFinding h]
  exact ⟨fun h => String.ofList_injective h, congrArg String.ofList⟩

/-- **The secret of a loaded rule.** What a finding says is the secret is the whole match, unless
the pattern that was written has a group called `secret` which took part and matched another text.
The variables for findings of loaded rules of which that is not so hold the whole matches. -/
theorem loadFrom_secret [SetOrder] (hload : loadFrom source text = .ok rules) :
    (∀ rule ∈ rules,
      (∃ document items entry p, Document.ofText text = .ok document ∧
        entries document = .ok items ∧ entry ∈ items ∧ Reads entry (.ok p) ∧
        rule.pattern = p.pattern ∧ rule.secretGroup = p.names.lookup secretGroupName) ∧
      ∀ catalog filter file content number m, Reported catalog filter content rule number m →
        let f := Scan.ruleFinding file number rule m
        f ∈ Scan.content catalog filter file content ∧ f.key = String.ofList m.text ∧
          (f.value = f.key ↔ ∀ group x, rule.secretGroup = some group →
            m.group? group = some x → x = [] ∨ x = m.text)) ∧
      ∀ (findings : List Finding) (pool : Env.NamePool),
        (∀ f ∈ findings, ∃ rule ∈ rules, ∃ catalog filter content file number m,
          Reported catalog filter content rule number m ∧ rule.secretText m = m.text ∧
            f = Scan.ruleFinding file number rule m) →
        ∀ f ∈ findings, ∃ e ∈ (Env.Mapping.ofFindings findings pool).entries,
          (Env.Mapping.ofFindings findings pool).name? f = some e.name ∧ e.value = f.key := by
  refine ⟨fun rule hrule => ⟨?_, ?_⟩, fun findings pool hfindings f hf => ?_⟩
  · obtain ⟨document, items, entry, hdocument, hitems, hentry, hmakes⟩ := exists_makes hload hrule
    obtain ⟨p, hp, hpattern, hgroup⟩ := hmakes.pattern
    exact ⟨document, items, entry, p, hdocument, hitems, hentry, hp, hpattern, hgroup⟩
  · intro catalog filter file content number m hm f
    refine ⟨hm.found file, Scan.key_ruleFinding hm.reported file number rule, ?_⟩
    rw [← secretText_eq_text_iff]
    exact value_eq_key_iff hm.reported file number rule
  · have hwhole : ∀ g ∈ findings, g.value = g.key := by
      intro g hg
      obtain ⟨rule, -, catalog, filter, content, file, number, m, hm, htext, rfl⟩ := hfindings g hg
      exact (value_eq_key_iff hm.reported file number rule).2 htext
    obtain ⟨e, he, hname, ⟨g, hg, hkey, hvalue⟩, -⟩ := Env.Mapping.ofFindings_entry pool hf
    exact ⟨e, he, hname, hvalue.trans ((hwhole g hg).trans hkey)⟩

/-- A key, and a value that is a group. -/
def pair (secretGroup : Option Nat) : Rule where
  name := "Pair"
  pattern := .ofList [.text "k", .text "=", .group 1 (.atLeast 1 (.within .exact [('a', 'z')] ""))]
  secretGroup
  severity := .error
  message := "m"
  fix := defaultFix

/-- A group of another name does not hold the secret. -/
theorem loadFrom_secret_pair :
    loadFrom "rules.yml" (entryOf "Pair" "k=(?P<name>[a-z]+)") = .ok [pair none] ∧
      ∃ m, Reported { Secrets.catalog with rules := [pair none] } .all "k=abc" (pair none) 1 m ∧
        (Scan.ruleFinding "app.js" 1 (pair none) m).value = "k=abc" := by
  have hload : loadFrom "rules.yml" (entryOf "Pair" "k=(?P<name>[a-z]+)") = .ok [pair none] := by
    decide +kernel
  have hmatch : (pair none).pattern.allIn "k=abc".toList =
      [⟨[], 0, "k=abc".toList, [], [⟨1, 2, some 5⟩]⟩] := rfl
  have hreported : Reported { Secrets.catalog with rules := [pair none] } .all "k=abc" (pair none) 1
      ⟨[], 0, "k=abc".toList, [], [⟨1, 2, some 5⟩]⟩ :=
    ⟨List.mem_singleton_self _, rfl, ⟨0, _, rfl, rfl, hmatch ▸ List.mem_singleton_self _⟩,
      by decide +kernel⟩
  refine ⟨hload, _, hreported, ?_⟩
  obtain ⟨-, hkey, hvalue⟩ := ((loadFrom_secret hload).1 (pair none)
    (List.mem_singleton_self _)).2 _ .all "app.js" "k=abc" 1 _ hreported
  exact (hvalue.2 nofun).trans hkey

/-- A group of this name does, and then the secret is not the whole match. -/
theorem loadFrom_secret_part :
    loadFrom "rules.yml" (entryOf "Pair" "k=(?P<secret>[a-z]+)") = .ok [pair (some 1)] ∧
      (Scan.content { Secrets.catalog with rules := [pair (some 1)] } .all "app.js" "k=abc").map
        (fun f => (f.key, f.value)) = [("k=abc", "abc")] := by
  decide +kernel

end Rule

end SecretScan

import SecretScan.Catalog.Network
import SecretScan.Proofs.Scan.Order

/-!
# Scanning with a part of a catalog

No rule and no check of a catalog has a say in what another one finds. So whatever can be told of
a finding by the rule or the check that it is from may as well be told of the rules and checks
before the scan (`content_filter`).
-/

namespace SecretScan

theorem Severity.ofName?_eq_some {name : String} {severity : Severity} :
    ofName? name = some severity ↔ severity.name = name := by
  unfold ofName?
  split
  · cases severity <;> decide
  · cases severity <;> decide
  · next herror hwarning =>
      cases severity
      · exact iff_of_false nofun fun h => herror h.symm
      · exact iff_of_false nofun fun h => hwarning h.symm

theorem SeverityFilter.passes_ofName {name : String} {severity : Severity} :
    (ofName name).passes severity = true ↔ name = "all" ∨ severity.name = name := by
  rw [ofName, ← Severity.ofName?_eq_some]
  split
  · next hall => simp [hall]
  · next hall =>
      cases Severity.ofName? name with
      | none => simp [hall]
      | some other => simp [hall]

namespace Catalog

/-- The names of the rules and of the checks. -/
def names (c : Catalog) : List String := c.ruleNames ++ c.checks.map (·.name)

/-- A catalog is some of the rules and checks of another one, in their order. -/
structure IsPart (part catalog : Catalog) : Prop where
  rules : part.rules.Sublist catalog.rules
  checks : part.checks.Sublist catalog.checks
  suppress : part.suppress = catalog.suppress

theorem firstRepeated?_eq_none {taken names : List String} :
    firstRepeated? taken names = none ↔ names.Nodup ∧ ∀ name ∈ names, name ∉ taken := by
  induction names generalizing taken with
  | nil => simp [firstRepeated?]
  | cons name rest ih =>
      rw [firstRepeated?, List.nodup_cons, List.forall_mem_cons]
      split
      · next htaken => simp_all
      · next hfree =>
          rw [ih]
          simp only [List.contains_eq_mem, decide_eq_true_eq] at hfree
          constructor
          · rintro ⟨hnodup, hnew⟩
            refine ⟨⟨fun hmem => hnew name hmem List.mem_cons_self, hnodup⟩, hfree, ?_⟩
            exact fun other hother htaken => hnew other hother (List.mem_cons_of_mem _ htaken)
          · rintro ⟨⟨hname, hnodup⟩, -, hnew⟩
            refine ⟨hnodup, fun other hother => ?_⟩
            rw [List.mem_cons, not_or]
            exact ⟨ne_of_mem_of_not_mem hother hname, hnew other hother⟩

/-- Rules are added at the end, if none of their names is taken. -/
theorem extend_eq_ok {c extended : Catalog} {rules : List Rule} :
    c.extend rules = .ok extended ↔ extended = { c with rules := c.rules ++ rules } ∧
      (rules.map (·.name)).Nodup ∧ ∀ rule ∈ rules, rule.name ∉ c.ruleNames := by
  have hfree := @firstRepeated?_eq_none c.ruleNames (rules.map (·.name))
  rw [List.forall_mem_map] at hfree
  rw [extend, ← hfree]
  cases firstRepeated? c.ruleNames (rules.map (·.name)) with
  | none => simp [eq_comm]
  | some name => simp

end Catalog

namespace Scan

open Text

variable {catalog : Catalog} {filter : SeverityFilter} {file text : String}

/-- Of what is listed under some items, a choice that goes by the items leaves what is listed under
the items that are chosen. -/
theorem filter_flatMap_of {α β : Type} {l : List α} {f : α → List β} {q : β → Bool} {p : α → Bool}
    (h : ∀ a ∈ l, ∀ b ∈ f a, q b = p a) : (l.flatMap f).filter q = (l.filter p).flatMap f := by
  induction l with
  | nil => rfl
  | cons a l ih =>
      rw [List.forall_mem_cons] at h
      rw [List.flatMap_cons, List.filter_append, ih h.2, List.filter_cons]
      cases hp : p a with
      | false =>
          rw [List.filter_eq_nil_iff.2 fun b hb => by rw [h.1 b hb, hp]; exact Bool.false_ne_true]
          rfl
      | true =>
          rw [List.filter_eq_self.2 fun b hb => by rw [h.1 b hb, hp]]
          rfl

section Choice

variable {q : Finding → Bool} {ofRule : Rule → Bool} {ofCheck : ContentCheck → Bool}

theorem linesFindings_filter
    (hrule : ∀ number rule m, q (ruleFinding file number rule m) = ofRule rule)
    (rules : List Rule) (hits : List Finding) (ls : List (List Char)) (number : Nat) :
    (linesFindings catalog rules hits file number ls).filter q =
      linesFindings catalog (rules.filter ofRule) (hits.filter q) file number ls := by
  induction ls generalizing number with
  | nil => rfl
  | cons line rest ih =>
      have hfound : ∀ rule ∈ rules, ∀ f ∈ ruleFindings catalog.suppress file number line rule,
          q f = ofRule rule := by
        intro rule _ f hf
        obtain ⟨m, -, rfl⟩ := List.mem_map.1 hf
        exact hrule number rule m
      rw [linesFindings, linesFindings, lineFindings, lineFindings, List.filter_append,
        List.filter_append, filter_flatMap_of hfound, List.filter_comm, ih]

theorem checkFindings_filter (hcheck : ∀ check hit, q (checkFinding file check hit) = ofCheck check)
    (s : List Char) (checks : List ContentCheck) :
    (checkFindings file s checks).filter q = checkFindings file s (checks.filter ofCheck) := by
  refine filter_flatMap_of fun check _ f hf => ?_
  obtain ⟨hit, -, rfl⟩ := List.mem_map.1 hf
  exact hcheck check hit

/-- Catalogs that differ in their name only find the same. -/
theorem content_congr {c c' : Catalog} (hrules : c.rules = c'.rules)
    (hchecks : c.checks = c'.checks) (hsuppress : c.suppress = c'.suppress) :
    content c filter file text = content c' filter file text := by
  rw [content, content, linesFindings_congr c c' hsuppress, hrules, hchecks]

/-- A choice of findings that goes by the rule or the check may be made before the scan. -/
theorem content_filter (ofRule : Rule → Bool) (ofCheck : ContentCheck → Bool)
    (hrule : ∀ number rule m, q (ruleFinding file number rule m) = ofRule rule)
    (hcheck : ∀ check hit, q (checkFinding file check hit) = ofCheck check) :
    (content catalog filter file text).filter q =
      content { catalog with
        rules := catalog.rules.filter ofRule
        checks := catalog.checks.filter ofCheck } filter file text := by
  have hrules := List.filter_comm ofRule (fun r : Rule => filter.passes r.severity) catalog.rules
  have hhits := checkFindings_filter hcheck text.toList
    (catalog.checks.filter fun c => filter.passes c.severity)
  rw [List.filter_comm] at hhits
  rw [content, List.filter_append, linesFindings_filter hrule, sortByLine_filter,
    List.filter_comm q, hhits, hrules]
  exact congrArg (· ++ _) (linesFindings_congr _ _ (by rfl) _ _ _ _)

end Choice

/-! ## Parts of a catalog -/

/-- What is left of some items is told by names, if the names differ. -/
theorem filter_eq_of_sublist {α : Type} {name : α → String} {l l' : List α} {names : List String}
    (hsub : l'.Sublist l) (hnodup : (l.map name).Nodup)
    (hnames : ∀ a ∈ l, name a ∈ names ↔ name a ∈ l'.map name) :
    l.filter (fun a => name a ∈ names) = l' := by
  have hkept : l'.Sublist (l.filter fun a => name a ∈ names) := by
    refine List.sublist_filter_iff.2 ⟨l', hsub, (List.filter_eq_self.2 fun a ha => ?_).symm⟩
    exact decide_eq_true ((hnames a (hsub.subset ha)).2 (List.mem_map.2 ⟨a, ha, rfl⟩))
  refine (hkept.eq_of_length_le (List.Nodup.length_le_of_subset ?_ ?_)).symm
  · exact (List.Nodup.of_map name hnodup).sublist List.filter_sublist
  · intro a ha
    rw [List.mem_filter, decide_eq_true_eq] at ha
    obtain ⟨b, hb, heq⟩ := List.mem_map.1 ((hnames a ha.1).1 ha.2)
    rwa [← List.inj_on_of_nodup_map hnodup (hsub.subset hb) ha.1 heq]

theorem content_part {part : Catalog} (h : part.IsPart catalog) (hnames : catalog.names.Nodup) :
    content part filter file text =
      (content catalog filter file text).filter fun f => f.rule ∈ part.names := by
  rw [Catalog.names, List.nodup_append] at hnames
  obtain ⟨hrules, hchecks, hapart⟩ := hnames
  rw [content_filter (fun r => r.name ∈ part.names) (fun c => c.name ∈ part.names)
    (fun _ _ _ => rfl) (fun _ _ => rfl)]
  refine content_congr (filter_eq_of_sublist h.rules hrules fun r hr => ?_).symm
    (filter_eq_of_sublist h.checks hchecks fun c hc => ?_).symm h.suppress
  · rw [Catalog.names, List.mem_append]
    refine or_iff_left fun hcheck => ?_
    exact hapart _ (List.mem_map.2 ⟨r, hr, rfl⟩) _ ((h.checks.map _).subset hcheck) rfl
  · rw [Catalog.names, List.mem_append]
    refine or_iff_right fun hrule => ?_
    exact hapart _ ((h.rules.map _).subset hrule) _ (List.mem_map.2 ⟨c, hc, rfl⟩) rfl

/-- What passes a filter may be told before the scan. -/
theorem content_passing (catalog : Catalog) (filter : SeverityFilter) (file text : String) :
    content catalog filter file text = content (catalog.passing filter) .all file text := by
  have hall : (catalog.passing filter).passing .all = catalog.passing filter := by
    simp [Catalog.passing]
  rw [content_eq, content_eq (catalog.passing filter), hall]

theorem content_severity (catalog : Catalog) (file text severity : String) :
    content catalog (.ofName severity) file text = (content catalog .all file text).filter fun f =>
      severity = "all" ∨ f.severity.name = severity := by
  have hpasses : ∀ f : Finding, decide (severity = "all" ∨ f.severity.name = severity) =
      (SeverityFilter.ofName severity).passes f.severity := by
    intro f
    rw [Bool.eq_iff_iff, decide_eq_true_eq, SeverityFilter.passes_ofName]
  simp only [hpasses]
  rw [content_passing,
    content_filter (fun r => (SeverityFilter.ofName severity).passes r.severity)
      (fun c => (SeverityFilter.ofName severity).passes c.severity)
    (fun _ _ _ => rfl) (fun _ _ => rfl)]
  rfl

/-! ## Catalogs that are extended -/

theorem linesFindings_sublist (rules more : List Rule) (hits : List Finding) (ls : List (List Char))
    (number : Nat) : (linesFindings catalog rules hits file number ls).Sublist
      (linesFindings catalog (rules ++ more) hits file number ls) := by
  induction ls generalizing number with
  | nil => exact List.Sublist.refl _
  | cons line rest ih =>
      rw [linesFindings, linesFindings, lineFindings, lineFindings, List.flatMap_append]
      exact ((List.sublist_append_left _ _).append_right _).append (ih (number + 1))

theorem ofRules_append (catalog : Catalog) (rules : List Rule) (file : String) (s : List Char) :
    (ofRules { catalog with rules := catalog.rules ++ rules } file s).Perm
      (ofRules catalog file s ++ ofRules { catalog with rules } file s) := by
  simp only [ofRules, List.flatMap_append]
  exact (List.flatMap_append_perm _ _ _).symm

theorem content_extend_sublist (catalog : Catalog) (rules : List Rule) :
    (content catalog filter file text).Sublist
      (content { catalog with rules := catalog.rules ++ rules } filter file text) := by
  rw [content, content, List.filter_append,
    linesFindings_congr { catalog with rules := catalog.rules ++ rules } catalog rfl]
  exact (linesFindings_sublist _ _ _ _ _).append_right _

theorem content_extend_perm (catalog : Catalog) (rules : List Rule) :
    (content { catalog with rules := catalog.rules ++ rules } filter file text).Perm
      (content catalog filter file text ++
        content { catalog with rules, checks := [] } filter file text) := by
  let old := ofRules (catalog.passing filter) file text.toList
  let new := ofRules (Catalog.passing { catalog with rules, checks := [] } filter) file text.toList
  let hits := checkFindings file text.toList (catalog.passing filter).checks
  have hextended : (content { catalog with rules := catalog.rules ++ rules } filter file text).Perm
      (old ++ new ++ hits) := by
    refine (content_perm _ _ _ _).trans (List.Perm.append_right _ ?_)
    rw [Catalog.passing, List.filter_append]
    exact ofRules_append (catalog.passing filter) _ file text.toList
  have hold : (content catalog filter file text).Perm (old ++ hits) := content_perm _ _ _ _
  have hnew : (content { catalog with rules, checks := [] } filter file text).Perm (new ++ []) :=
    content_perm _ _ _ _
  rw [List.append_nil] at hnew
  refine (hextended.trans ?_).trans (hold.append hnew).symm
  rw [List.append_assoc, List.append_assoc]
  exact List.perm_append_comm.append_left _

theorem isPart_extended {extended : Catalog} {rules : List Rule}
    (h : catalog.extend rules = .ok extended) : catalog.IsPart extended := by
  obtain ⟨rfl, -, -⟩ := Catalog.extend_eq_ok.1 h
  exact ⟨List.sublist_append_left _ _, List.Sublist.refl _, rfl⟩

theorem names_extended {extended : Catalog} {rules : List Rule}
    (h : catalog.extend rules = .ok extended) (hnames : catalog.names.Nodup)
    (hchecks : ∀ rule ∈ rules, rule.name ∉ catalog.checks.map (·.name)) :
    extended.names.Nodup := by
  obtain ⟨rfl, hnodup, hnew⟩ := Catalog.extend_eq_ok.1 h
  have hperm : (Catalog.names { catalog with rules := catalog.rules ++ rules }).Perm
      (rules.map (·.name) ++ catalog.names) := by
    rw [Catalog.names, Catalog.names, Catalog.ruleNames, List.map_append]
    refine (List.perm_append_comm.append_right _).trans ?_
    rw [List.append_assoc]
    rfl
  rw [hperm.nodup_iff, List.nodup_append]
  refine ⟨hnodup, hnames, fun name hname other hother heq => ?_⟩
  obtain ⟨rule, hrule, rfl⟩ := List.mem_map.1 hname
  subst heq
  exact (List.mem_append.1 hother).elim (hnew rule hrule) (hchecks rule hrule)

/-- If all names of a catalog differ, a scan with a part of it finds what the full scan finds for
the names of the part, in the same order. So a scan for one severity finds what the scan for all of
them finds with that severity. Rules that are added neither hide nor move nor change what was found
without them, and what is found beside it is what they find alone. -/
theorem content_compositional {catalog : Catalog} (hnames : catalog.names.Nodup)
    (file text : String) :
    (∀ part : Catalog, part.IsPart catalog → ∀ filter, content part filter file text =
      (content catalog filter file text).filter fun f => f.rule ∈ part.names) ∧
    (∀ severity : String, content catalog (.ofName severity) file text =
      (content catalog .all file text).filter fun f =>
        severity = "all" ∨ f.severity.name = severity) ∧
    ∀ (rules : List Rule) (extended : Catalog), catalog.extend rules = .ok extended → ∀ filter,
      (content catalog filter file text).Sublist (content extended filter file text) ∧
      (content extended filter file text).Perm (content catalog filter file text ++
        content { catalog with rules, checks := [] } filter file text) ∧
      ((∀ rule ∈ rules, rule.name ∉ catalog.checks.map (·.name)) →
        content catalog filter file text =
          (content extended filter file text).filter fun f => f.rule ∈ catalog.names) := by
  refine ⟨fun part hpart filter => content_part hpart hnames, content_severity catalog file text,
    fun rules extended hextend filter => ⟨?_, ?_, fun hchecks => ?_⟩⟩
  · obtain ⟨rfl, -⟩ := Catalog.extend_eq_ok.1 hextend
    exact content_extend_sublist catalog rules
  · obtain ⟨rfl, -⟩ := Catalog.extend_eq_ok.1 hextend
    exact content_extend_perm catalog rules
  · exact content_part (isPart_extended hextend) (names_extended hextend hnames hchecks)

/-- A text with a match and a hit, of which a part of the catalog finds the hit only, and to which
a rule is added that matches between them. -/
theorem content_compositional_network :
    let catalog := Network.catalog
    let part := { catalog with rules := [], checks := catalog.checks.drop 1 }
    let note : Rule :=
      { name := "Note", pattern := .text "rr", severity := .error, message := "", fix := "" }
    let text := "debugger;\nres.json(err)"
    let names := fun (catalog : Catalog) => (content catalog .all "a.js" text).map (·.rule)
    catalog.names.Nodup ∧ part.IsPart catalog ∧
      content part .all "a.js" text =
        ((content catalog .all "a.js" text).filter fun f => f.rule ∈ part.names) ∧
      names catalog = ["Debugger Statement", "Raw Error in Response"] ∧
      names part = ["Raw Error in Response"] ∧
      ∃ extended, catalog.extend [note] = .ok extended ∧
        content catalog .all "a.js" text =
          ((content extended .all "a.js" text).filter fun f => f.rule ∈ catalog.names) ∧
        names extended = ["Debugger Statement", "Note", "Raw Error in Response"] := by
  intro catalog part note text names
  have hnames : catalog.names.Nodup := by decide +kernel
  have hpart : part.IsPart catalog := ⟨List.nil_sublist _, List.drop_sublist 1 _, rfl⟩
  have hextend : catalog.extend [note] = .ok { catalog with rules := catalog.rules ++ [note] } :=
    Catalog.extend_eq_ok.2 ⟨rfl, by decide +kernel, by decide +kernel⟩
  have hfree : ∀ rule ∈ [note], rule.name ∉ catalog.checks.map (·.name) := by decide +kernel
  obtain ⟨hparts, -, hextended⟩ := content_compositional hnames "a.js" text
  exact ⟨hnames, hpart, hparts part hpart .all, by decide +kernel, by decide +kernel, _, hextend,
    (hextended [note] _ hextend .all).2.2 hfree, by decide +kernel⟩

end Scan

end SecretScan

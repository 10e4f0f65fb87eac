import Mathlib.Order.Bounds.Defs
import SecretScan.Proofs.Rule.Load
import SecretScan.Proofs.Scan.Parts

/-!
# All the rules of a document or none

Loading goes through the entries of a document one by one. What it makes of an entry it makes of
the entry alone: `ofEntry` and `Makes` say the same, and where the entry stands goes into nothing
but what is said about its fault. So a load that gets to the end has one rule for each entry, and a
load that is refused was stopped by the first entry that is bad, be it at fault or named like one
before it (`loadFrom_all_or_nothing`).
-/

namespace SecretScan

namespace Rule

open Yaml (Value Document SetOrder)

/-- A rule is what an entry says. -/
structure Makes (entry : Value) (rule : Rule) : Prop where
  complete : IsComplete entry
  name : fieldText entry "name" = .ok rule.name
  pattern : ∃ p, Reads entry (.ok p) ∧ rule.pattern = p.pattern ∧
    rule.secretGroup = p.names.lookup secretGroupName
  /-- The empty text is not matched. -/
  solid : rule.pattern.occursIn [] = false
  severity : severityOf? entry = some rule.severity
  message : fieldText entry "message" = .ok rule.message
  fix : fixOf entry = .ok rule.fix
  category : rule.category = none

/-- An entry gives a text as its name. -/
def IsNamed (entry : Value) (name : String) : Prop :=
  isGiven entry "name" = true ∧ fieldText entry "name" = .ok name

/-- An entry is named like one before it. -/
def Repeats (items : List Value) (i : Nat) (name : String) : Prop :=
  (∃ entry, items[i]? = some entry ∧ IsNamed entry name) ∧
    ∃ j < i, ∃ entry, items[j]? = some entry ∧ IsNamed entry name

/-- An entry is at fault or named like one before it. -/
def IsBad (items : List Value) (i : Nat) : Prop :=
  (∃ entry fault, items[i]? = some entry ∧ HasFault entry fault) ∨ ∃ name, Repeats items i name

/-- What is said about a bad entry: its fault, or else that its name is taken. -/
inductive Blames (items : List Value) (i : Nat) : RulesFault → Prop
  | fault {entry : Value} {fault : EntryFault} : items[i]? = some entry → HasFault entry fault →
      Blames items i (.entry (i + 1) fault)
  | name {entry : Value} {name : String} : items[i]? = some entry →
      (∀ fault, ¬HasFault entry fault) → Repeats items i name →
      Blames items i (.repeatedName name)

/-! ## One entry -/

variable {entry : Value} {rule : Rule} {index : Nat} {f : RulesFault}

theorem Makes.isNamed (h : Makes entry rule) : IsNamed entry rule.name :=
  ⟨h.complete.given "name" (by decide), h.name⟩

theorem withTexts_eq_ok {severity : Severity} {p : NamedPattern} :
    withTexts entry severity p = .ok rule ↔ fieldText entry "name" = .ok rule.name ∧
      fieldText entry "message" = .ok rule.message ∧ fixOf entry = .ok rule.fix ∧
      rule.pattern = p.pattern ∧ rule.secretGroup = p.names.lookup secretGroupName ∧
      rule.severity = severity ∧ rule.category = none := by
  simp only [withTexts, bind_eq_ok]
  constructor
  · rintro ⟨name, hname, message, hmessage, fix, hfix, hrule⟩
    cases hrule
    exact ⟨hname, hmessage, hfix, rfl, rfl, rfl, rfl⟩
  · obtain ⟨name, pattern, secretGroup, severity', message, fix, category⟩ := rule
    rintro ⟨hname, hmessage, hfix, rfl, rfl, rfl, rfl⟩
    exact ⟨name, hname, message, hmessage, fix, hfix, rfl⟩

theorem ofEntry_eq_ok : ofEntry index entry = .ok rule ↔ Makes entry rule := by
  by_cases hc : IsComplete entry
  · obtain ⟨severity, hseverity, hentry⟩ := ofEntry_complete hc index
    rw [hentry, bind_eq_ok]
    constructor
    · rintro ⟨p, hp, h⟩
      split at h
      · cases h
      · next hsolid =>
          obtain ⟨hname, hmessage, hfix, hpattern, hgroup, rfl, hcategory⟩ := withTexts_eq_ok.1 h
          refine ⟨hc, hname, ⟨p, patternOf_eq_ok.1 hp, hpattern, hgroup⟩, ?_, hseverity, hmessage,
            hfix, hcategory⟩
          rw [hpattern]
          exact Bool.not_eq_true _ ▸ hsolid
    · rintro ⟨-, hname, ⟨p, hp, hpattern, hgroup⟩, hsolid, hseverity', hmessage, hfix, hcategory⟩
      refine ⟨p, patternOf_eq_ok.2 hp, ?_⟩
      rw [hpattern] at hsolid
      rw [hsolid, if_neg Bool.false_ne_true]
      exact withTexts_eq_ok.2 ⟨hname, hmessage, hfix, hpattern, hgroup,
        Option.some.inj (hseverity'.symm.trans hseverity), hcategory⟩
  · obtain ⟨fault, hfault⟩ := exists_hasFault hc
    rw [hfault.refused index]
    exact ⟨nofun, fun h => absurd h.complete hc⟩

/-- An entry makes one rule at most, wherever it stands. -/
theorem Makes.unique {rule' : Rule} (h : Makes entry rule) (h' : Makes entry rule') :
    rule = rule' := by
  have hentry : ofEntry 0 entry = .ok rule := ofEntry_eq_ok.2 h
  exact Except.ok.inj (hentry.symm.trans (ofEntry_eq_ok.2 h'))

theorem textOf_ne_declared {v : Value} : textOf v ≠ .error (.declared f) := by
  rw [textOf]
  split <;> intro h <;> cases h

theorem fixOf_ne_declared : fixOf entry ≠ .error (.declared f) := by
  rw [fixOf]
  split
  · exact textOf_ne_declared
  · intro h
    cases h

theorem withTexts_ne_declared {severity : Severity} {p : NamedPattern} :
    withTexts entry severity p ≠ .error (.declared f) := by
  simp only [withTexts, ne_eq, bind_eq_error, not_or, not_exists, not_and]
  refine ⟨textOf_ne_declared, fun _ _ => ⟨textOf_ne_declared, fun _ _ => ⟨fixOf_ne_declared, ?_⟩⟩⟩
  exact fun _ _ h => by cases h

theorem patternOf_eq_declared (h : patternOf index entry = .error (.declared f)) :
    ∃ e, f = .entry index (.pattern e) ∧ Reads entry (.error (.malformed e)) := by
  rw [patternOf, bind_eq_error] at h
  obtain ⟨written, hwritten, h⟩ := h.resolve_left textOf_ne_declared
  split at h
  case h_2 e he =>
    cases h
    exact ⟨e, rfl, written, hwritten, he⟩
  all_goals cases h

/-- What is declared about an entry is its fault. -/
theorem ofEntry_eq_declared : ofEntry index entry = .error (.declared f) ↔
    ∃ fault, HasFault entry fault ∧ f = .entry index fault := by
  refine ⟨fun h => ?_, fun ⟨fault, hfault, hf⟩ => hf ▸ hfault.refused index⟩
  by_cases hc : IsComplete entry
  · obtain ⟨severity, -, hentry⟩ := ofEntry_complete hc index
    rw [hentry, bind_eq_error] at h
    rcases h with h | ⟨p, hp, h⟩
    · obtain ⟨e, rfl, he⟩ := patternOf_eq_declared h
      exact ⟨_, .pattern hc he, rfl⟩
    · split at h
      · next hsolid =>
          cases h
          exact ⟨_, .matchesNothing hc (patternOf_eq_ok.1 hp) hsolid, rfl⟩
      · exact absurd h withTexts_ne_declared
  · obtain ⟨fault, hfault⟩ := exists_hasFault hc
    rw [hfault.refused index] at h
    cases h
    exact ⟨fault, hfault, rfl⟩

theorem Makes.not_hasFault (h : Makes entry rule) (fault : EntryFault) : ¬HasFault entry fault := by
  intro hfault
  have hrefused := hfault.refused 0
  rw [ofEntry_eq_ok.2 h] at hrefused
  cases hrefused

/-! ## All entries -/

variable {items : List Value} {rules : List Rule} {seen : List String}

/-- Entries make rules one for one, and their names are new. -/
theorem ofEntries_eq_ok : ofEntries index seen items = .ok rules ↔
    List.Forall₂ Makes items rules ∧ (rules.map (·.name)).Nodup ∧
      ∀ rule ∈ rules, rule.name ∉ seen := by
  induction items generalizing index seen rules with
  | nil =>
      constructor
      · rintro h
        cases h
        exact ⟨.nil, List.nodup_nil, nofun⟩
      · rintro ⟨h, -⟩
        cases h
        rfl
  | cons entry rest ih =>
      rw [ofEntries_cons, bind_eq_ok, List.forall₂_cons_left_iff]
      constructor
      · rintro ⟨rule, hrule, h⟩
        split at h
        · cases h
        · next hnew =>
            rw [List.contains_iff_mem] at hnew
            obtain ⟨rules, hrules, h⟩ := bind_eq_ok.1 h
            cases h
            obtain ⟨hmade, hnames, hfree⟩ := ih.1 hrules
            refine ⟨⟨rule, rules, ofEntry_eq_ok.1 hrule, hmade, rfl⟩, ?_, ?_⟩
            · rw [List.map_cons, List.nodup_cons]
              refine ⟨fun hmem => ?_, hnames⟩
              obtain ⟨other, hother, heq⟩ := List.mem_map.1 hmem
              exact hfree other hother (heq ▸ List.mem_cons_self)
            · rw [List.forall_mem_cons]
              exact ⟨hnew, fun other hother hseen =>
                hfree other hother (List.mem_cons_of_mem _ hseen)⟩
      · rintro ⟨⟨rule, rules, hrule, hmade, rfl⟩, hnames, hfree⟩
        rw [List.map_cons, List.nodup_cons] at hnames
        rw [List.forall_mem_cons] at hfree
        refine ⟨rule, ofEntry_eq_ok.2 hrule, ?_⟩
        rw [if_neg (mt List.contains_iff_mem.1 hfree.1), bind_eq_ok]
        refine ⟨rules, ih.2 ⟨hmade, hnames.2, fun other hother => ?_⟩, rfl⟩
        rw [List.mem_cons, not_or]
        refine ⟨fun heq => hnames.1 (heq ▸ List.mem_map_of_mem hother), hfree.2 other hother⟩

/-- What is declared about entries is declared at one of them, after entries that make rules. -/
theorem ofEntries_eq_declared (h : ofEntries index seen items = .error (.declared f)) :
    ∃ before entry after rules, items = before ++ entry :: after ∧
      ofEntries index seen before = .ok rules ∧
      ((∃ fault, HasFault entry fault ∧ f = .entry (index + before.length) fault) ∨
        ∃ rule, Makes entry rule ∧ f = .repeatedName rule.name ∧
          (rule.name ∈ seen ∨ rule.name ∈ rules.map (·.name))) := by
  induction items generalizing index seen with
  | nil => cases h
  | cons entry rest ih =>
      rw [ofEntries_cons, bind_eq_error] at h
      rcases h with h | ⟨rule, hrule, h⟩
      · exact ⟨[], entry, rest, [], rfl, rfl, .inl (ofEntry_eq_declared.1 h)⟩
      split at h
      · next htaken =>
          cases h
          exact ⟨[], entry, rest, [], rfl, rfl,
            .inr ⟨rule, ofEntry_eq_ok.1 hrule, rfl, .inl (List.contains_iff_mem.1 htaken)⟩⟩
      · next hnew =>
          have hrest := (bind_eq_error.1 h).resolve_right nofun
          obtain ⟨before, entry', after, rules, rfl, hbefore, hblamed⟩ := ih hrest
          refine ⟨entry :: before, entry', after, rule :: rules, rfl, ?_, ?_⟩
          · rw [ofEntries_cons, bind_eq_ok]
            exact ⟨rule, hrule, (if_neg hnew).trans (bind_eq_ok.2 ⟨rules, hbefore, rfl⟩)⟩
          · refine hblamed.imp (fun ⟨fault, hfault, hf⟩ => ⟨fault, hfault, ?_⟩)
              fun ⟨rule', hrule', hf, htaken⟩ => ⟨rule', hrule', hf, ?_⟩
            · rw [hf, List.length_cons, Nat.add_assoc, Nat.add_comm 1]
            · rw [List.mem_cons] at htaken
              rw [List.map_cons, List.mem_cons, or_left_comm, ← or_assoc]
              exact htaken

/-- Entries of which rules are made are not bad. -/
theorem not_isBad_of_makes {before after : List Value} (hmade : List.Forall₂ Makes before rules)
    (hnames : (rules.map (·.name)).Nodup) {i : Nat} (hi : i < before.length) :
    ¬IsBad (before ++ after) i := by
  have hmakes : ∀ j ≤ i, ∃ entry rule, (before ++ after)[j]? = some entry ∧
      rules[j]? = some rule ∧ Makes entry rule := by
    intro j hj
    have hj : j < before.length := by omega
    have hj' : j < rules.length := hmade.length_eq ▸ hj
    exact ⟨before[j], rules[j], by rw [List.getElem?_append_left hj, List.getElem?_eq_getElem hj],
      List.getElem?_eq_getElem hj', hmade.get hj hj'⟩
  obtain ⟨entry, rule, hentry, hrule, hmake⟩ := hmakes i (Nat.le_refl i)
  rintro (⟨entry', fault, hentry', hfault⟩ | ⟨name, ⟨entry', hentry', hname⟩, j, hj, other, hother,
    hname'⟩)
  · cases hentry.symm.trans hentry'
    exact hmake.not_hasFault fault hfault
  · obtain ⟨other', rule', hother', hrule', hmake'⟩ := hmakes j (Nat.le_of_lt hj)
    cases hentry.symm.trans hentry'
    cases hother.symm.trans hother'
    have heq : rule.name = rule'.name := Except.ok.inj
      ((hmake.name.symm.trans hname.2).trans (hname'.2.symm.trans hmake'.name))
    have hsame : (rules.map (·.name))[i]? = (rules.map (·.name))[j]? := by
      rw [List.getElem?_map, List.getElem?_map, hrule, hrule', Option.map_some, Option.map_some,
        heq]
    have hi' : i < (rules.map (·.name)).length := by
      rw [List.length_map, ← hmade.length_eq]
      exact hi
    exact Nat.ne_of_gt hj ((List.getElem?_inj hi' hnames).1 hsame)

theorem getElem?_length_append {before after : List Value} :
    (before ++ entry :: after)[before.length]? = some entry := by
  rw [List.getElem?_append_right (Nat.le_refl _), Nat.sub_self, List.getElem?_cons_zero]

theorem Makes.repeats {before after : List Value} (hmake : Makes entry rule)
    (hmade : List.Forall₂ Makes before rules) (htaken : rule.name ∈ rules.map (·.name)) :
    Repeats (before ++ entry :: after) before.length rule.name := by
  obtain ⟨other, hother, heq⟩ := List.mem_map.1 htaken
  obtain ⟨j, hj, rfl⟩ := List.getElem_of_mem hother
  have hj' : j < before.length := hmade.length_eq ▸ hj
  refine ⟨⟨entry, getElem?_length_append, hmake.isNamed⟩, j, hj', before[j], ?_,
    heq ▸ (hmade.get hj' hj).isNamed⟩
  rw [List.getElem?_append_left hj', List.getElem?_eq_getElem hj']

/-- What is declared about entries is said about the first bad one. -/
theorem blames_of_ofEntries (h : ofEntries 1 [] items = .error (.declared f)) :
    ∃ i, IsLeast {i | IsBad items i} i ∧ Blames items i f := by
  obtain ⟨before, entry, after, rules, rfl, hbefore, hblamed⟩ := ofEntries_eq_declared h
  obtain ⟨hmade, hnames, -⟩ := ofEntries_eq_ok.1 hbefore
  have hleast : before.length ∈ lowerBounds {i | IsBad (before ++ entry :: after) i} :=
    fun i hi => Nat.le_of_not_lt fun hlt => not_isBad_of_makes hmade hnames hlt hi
  rcases hblamed with ⟨fault, hfault, rfl⟩ | ⟨rule, hmake, rfl, htaken⟩
  · refine ⟨before.length, ⟨.inl ⟨entry, fault, getElem?_length_append, hfault⟩, hleast⟩, ?_⟩
    rw [Nat.add_comm]
    exact .fault getElem?_length_append hfault
  · have hrepeats : Repeats (before ++ entry :: after) before.length rule.name :=
      hmake.repeats hmade (htaken.resolve_left List.not_mem_nil)
    exact ⟨before.length, ⟨.inr ⟨rule.name, hrepeats⟩, hleast⟩,
      .name getElem?_length_append hmake.not_hasFault hrepeats⟩

theorem loadFrom_eq_ok [SetOrder] {source text : String} :
    loadFrom source text = .ok rules ↔ load text = .ok rules := by
  rw [loadFrom]
  cases load text with
  | ok _ => exact ⟨fun h => by cases h; rfl, fun h => by cases h; rfl⟩
  | error _ => constructor <;> intro h <;> cases h

theorem loadFrom_eq_rules [SetOrder] {source text : String} :
    loadFrom source text = .error (.rules source f) ↔ load text = .error (.declared f) := by
  rw [loadFrom]
  cases load text with
  | ok _ => constructor <;> intro h <;> cases h
  | error e =>
      cases e with
      | declared f' => exact ⟨fun h => by cases h; rfl, fun h => by cases h; rfl⟩
      | _ => constructor <;> intro h <;> cases h

/-- Rules are added to a catalog after those that are there, if that leaves all names different,
and else a value is refused. -/
theorem extended_cases {c : Catalog} (hnames : c.ruleNames.Nodup) (rules : List Rule) :
    (∃ extended, c.extended rules = .ok extended ∧ extended.ruleNames.Nodup ∧
        extended = { c with rules := c.rules ++ rules }) ∨
      ∃ message, c.extended rules = .error (.value message) := by
  rw [Catalog.extended]
  cases hextend : c.extend rules with
  | error name => exact .inr ⟨_, rfl⟩
  | ok extended =>
      obtain ⟨rfl, hnew, hfree⟩ := Catalog.extend_eq_ok.1 hextend
      refine .inl ⟨_, rfl, ?_, rfl⟩
      rw [Catalog.ruleNames, List.map_append, List.nodup_append]
      refine ⟨hnames, hnew, fun name hname other hother heq => ?_⟩
      obtain ⟨rule, hrule, rfl⟩ := List.mem_map.1 hother
      exact hfree rule hrule (heq ▸ hname)

/-- **All or nothing.** A document that has entries gives one rule for each of them, made of that
entry alone, with names that differ and patterns that do not match the empty text; a catalog is
extended by these at its end and its names still differ, or else a value is refused. If the
document is at fault, there is a first bad entry, and the fault is that of this entry. -/
theorem loadFrom_all_or_nothing [SetOrder] {text : String} {document : Option Document}
    {items : List Value} (source : String) (hdocument : Document.ofText text = .ok document)
    (hitems : entries document = .ok items) :
    (∀ rules, loadFrom source text = .ok rules →
      List.Forall₂ Makes items rules ∧ (rules.map (·.name)).Nodup ∧
        (∀ rule ∈ rules, rule.pattern.occursIn [] = false) ∧
        ∀ c : Catalog, c.ruleNames.Nodup →
          (∃ extended, c.extended rules = .ok extended ∧ extended.ruleNames.Nodup ∧
              extended = { c with rules := c.rules ++ rules }) ∨
            ∃ message, c.extended rules = .error (.value message)) ∧
      (∀ f, loadFrom source text = .error (.rules source f) →
        ∃ i, IsLeast {i | IsBad items i} i ∧ Blames items i f) ∧
      ∀ c ∈ [Secrets.catalog, Network.catalog], c.ruleNames.Nodup := by
  have hload : load text = ofEntries 1 [] items := by
    rw [load, hdocument]
    exact congrArg (· >>= ofEntries 1 []) hitems
  refine ⟨fun rules hrules => ?_, fun f hf => ?_, by decide +kernel⟩
  · obtain ⟨hmade, hnames, -⟩ := ofEntries_eq_ok.1 (hload.symm.trans (loadFrom_eq_ok.1 hrules))
    refine ⟨hmade, hnames, fun rule hrule => ?_, fun c hc => extended_cases hc rules⟩
    obtain ⟨i, hi, rfl⟩ := List.getElem_of_mem hrule
    exact (hmade.get (hmade.length_eq ▸ hi) hi).solid
  · exact blames_of_ofEntries (hload.symm.trans (loadFrom_eq_rules.1 hf))

/-- Two entries, of which the first has a number as its name and the second has its digits. -/
def sameDigits : String :=
  "- \x7bname: 1, pattern: a, severity: error, message: m\x7d\n" ++
    "- \x7bname: \"1\", pattern: b, severity: error, message: m\x7d\n"

/-- The second entry of these is the first bad one. -/
theorem loadFrom_all_or_nothing_sameDigits :
    ∃ document items, Document.ofText sameDigits = .ok document ∧ entries document = .ok items ∧
      loadFrom "rules.yml" sameDigits = .error (.rules "rules.yml" (.repeatedName "1")) ∧
      ∃ i, IsLeast {i | IsBad items i} i ∧ Blames items i (.repeatedName "1") := by
  obtain ⟨document, hdocument, hok⟩ : ∃ document, Document.ofText sameDigits = .ok document ∧
      (entries document).isOk = true := by decide +kernel
  obtain ⟨items, hitems⟩ := isOk_eq_true.1 hok
  have hrefused : loadFrom "rules.yml" sameDigits =
      .error (.rules "rules.yml" (.repeatedName "1")) := by decide +kernel
  exact ⟨document, items, hdocument, hitems, hrefused,
    (loadFrom_all_or_nothing "rules.yml" hdocument hitems).2.1 _ hrefused⟩

end Rule

end SecretScan

import SecretScan.Failure
import SecretScan.Proofs.Files.Disk
import SecretScan.Proofs.Yaml.Numbers

/-!
# What loading rules does not declare

Loading rules has a failure of its own for everything that may be wrong with a document and with
its entries. Three things get past it, and nothing else does (`loadFrom_undeclared_iff`). A text
can fail as a document in a way that is not one of a document, by a scalar that is not what it is
said to be or has a part that counts too much. A pattern can be refused for something else than its
form. And a number can be too long to be written where a field is asked for its text. What becomes
of a document that asks for half a character is left open.

An entry of the last two kinds has to be reached: the entries before it make rules with names of
their own, and it has itself all that an entry needs.
-/

namespace SecretScan

/-- Whether a failure to read is one of a value in a document. -/
def Yaml.ReadError.isOfValue : Yaml.ReadError → Bool
  | value _ | bare _ => true
  | document _ | halfCharacter => false

/-- Whether a pattern is refused for its form. -/
def PatternRefusal.isMalformed : PatternRefusal → Bool
  | malformed _ => true
  | _ => false

/-- Whether a failure to load rules is one that is not declared. -/
def RulesError.isUndeclared : RulesError → Bool
  | value _ | bare _ => true
  | declared _ | halfCharacter => false

namespace Rule

open Yaml (Value Document SetOrder)

/-- An entry that has what an entry needs, as far as can be told before its pattern is read. -/
structure IsComplete (entry : Value) : Prop where
  mapping : ∃ fields, entry = .map fields
  given : ∀ key ∈ requiredKeys, isGiven entry key = true
  severity : (severityOf? entry).isSome = true

/-- The pattern that an entry writes, read with the flags that it asks for. -/
def Reads (entry : Value) (result : Except PatternRefusal NamedPattern) : Prop :=
  ∃ written, fieldText entry "pattern" = .ok written ∧
    NamedPattern.read { ignoreCase := isGiven entry "ignore_case" } written = result

/-- What an entry is blamed for, which is the first thing that is wrong with it. -/
inductive HasFault (entry : Value) : EntryFault → Prop
  | notAMapping : (∀ fields, entry ≠ .map fields) → HasFault entry .notAMapping
  | missing {fields : List (Value × Value)} : entry = .map fields →
      requiredKeys.filter (!isGiven entry ·) ≠ [] →
      HasFault entry (.missing (requiredKeys.filter (!isGiven entry ·)))
  | severity {fields : List (Value × Value)} : entry = .map fields →
      (∀ key ∈ requiredKeys, isGiven entry key = true) → severityOf? entry = none →
      HasFault entry .severity
  | pattern {e : PatternError} : IsComplete entry → Reads entry (.error (.malformed e)) →
      HasFault entry (.pattern e)
  | matchesNothing {p : NamedPattern} : IsComplete entry → Reads entry (.ok p) →
      p.pattern.occursIn [] = true → HasFault entry .matchesNothing

/-- Why no rule can be made of an entry with which nothing declared is wrong. -/
inductive Unmakeable (entry : Value) : Prop
  | pattern : entry.IsOverlong "pattern" → Unmakeable entry
  | refused {refusal : PatternRefusal} : Reads entry (.error refusal) →
      refusal.isMalformed = false → Unmakeable entry
  | field {p : NamedPattern} {key : String} : Reads entry (.ok p) →
      p.pattern.occursIn [] = false → key ∈ ["name", "message", "fix"] → entry.IsOverlong key →
      Unmakeable entry

/-- A computation that fails in a way that is not declared. -/
def Undeclared {α : Type} (x : Except RulesError α) : Prop :=
  ∃ e, x = .error e ∧ e.isUndeclared = true

section Steps

variable {α β : Type}

theorem not_undeclared_ok {a : α} : ¬Undeclared (.ok a : Except RulesError α) := nofun

@[simp]
theorem undeclared_pure {a : α} : Undeclared (pure a : Except RulesError α) ↔ False :=
  iff_false_intro not_undeclared_ok

theorem not_undeclared_declared {f : RulesFault} :
    ¬Undeclared (.error (.declared f) : Except RulesError α) := by
  rintro ⟨_, ⟨⟩, ⟨⟩⟩

/-- Two steps fail where the first one does, or else where the second one does. -/
theorem undeclared_bind {x : Except RulesError α} {f : α → Except RulesError β} :
    Undeclared (x >>= f) ↔ Undeclared x ∨ ∃ a, x = .ok a ∧ Undeclared (f a) := by
  cases x with
  | error e => exact ⟨fun ⟨_, h, hd⟩ => .inl ⟨e, rfl, by cases h; exact hd⟩,
      fun | .inl ⟨_, h, hd⟩ => ⟨_, by cases h; rfl, hd⟩⟩
  | ok a => exact ⟨fun h => .inr ⟨a, rfl, h⟩, fun | .inr ⟨_, h, hf⟩ => by cases h; exact hf⟩

/-- A last step that cannot fail. -/
theorem undeclared_map {x : Except RulesError α} {g : α → β} :
    Undeclared (x >>= fun a => pure (g a)) ↔ Undeclared x :=
  undeclared_bind.trans ⟨fun | .inl h => h, .inl⟩

/-- A check that fails in a declared way. -/
@[simp]
theorem undeclared_check {b : Bool} {f : RulesFault} {x : Except RulesError α} :
    Undeclared (if b then .error (.declared f) else x) ↔ b = false ∧ Undeclared x := by
  cases b with
  | false => exact ⟨fun h => ⟨rfl, h⟩, fun h => h.2⟩
  | true => exact ⟨fun h => absurd h not_undeclared_declared, fun h => nomatch h.1⟩

end Steps

variable {entry : Value} {key : String} {index : Nat}

theorem undeclared_textOf {v : Value} : Undeclared (textOf v) ↔ v.isWritable = false := by
  rw [← Value.toText_isOk, textOf]
  cases v.toText with
  | ok s => exact ⟨fun h => absurd h not_undeclared_ok, nofun⟩
  | error message => exact ⟨fun _ => rfl, fun _ => ⟨_, rfl, rfl⟩⟩

@[simp]
theorem undeclared_fieldText : Undeclared (fieldText entry key) ↔ entry.IsOverlong key := by
  rw [fieldText, undeclared_textOf, Value.IsOverlong]
  cases entry.field? key with
  | none => exact ⟨nofun, nofun⟩
  | some v => exact ⟨fun h => ⟨v, rfl, h⟩, fun ⟨_, h, hv⟩ => by cases h; exact hv⟩

theorem patternOf_eq_ok {p : NamedPattern} :
    patternOf index entry = .ok p ↔ Reads entry (.ok p) := by
  rw [patternOf, bind_eq_ok]
  refine exists_congr fun written => and_congr_right fun _ => ?_
  rcases NamedPattern.read _ written with (_ | _ | _ | _) | p' <;> simp [throw, throwThe,
    MonadExceptOf.throw, pure, Except.pure]

theorem undeclared_patternOf : Undeclared (patternOf index entry) ↔
    entry.IsOverlong "pattern" ∨
      ∃ refusal, Reads entry (.error refusal) ∧ refusal.isMalformed = false := by
  rw [patternOf, undeclared_bind, undeclared_fieldText]
  refine or_congr_right ⟨?_, ?_⟩
  · rintro ⟨written, hwritten, h⟩
    cases hread : NamedPattern.read { ignoreCase := isGiven entry "ignore_case" } written with
    | ok p =>
        rw [hread] at h
        exact absurd h not_undeclared_ok
    | error refusal =>
        refine ⟨refusal, ⟨written, hwritten, hread⟩, ?_⟩
        rw [hread] at h
        cases refusal with
        | malformed e => exact absurd h not_undeclared_declared
        | _ => rfl
  · rintro ⟨refusal, ⟨written, hwritten, hread⟩, hrefusal⟩
    refine ⟨written, hwritten, ?_⟩
    rw [hread]
    cases refusal with
    | malformed e => cases hrefusal
    | _ => exact ⟨_, rfl, rfl⟩

theorem fieldText_total (entry : Value) (key : String) :
    entry.IsOverlong key ∨ ∃ s, fieldText entry key = .ok s := by
  rw [← undeclared_fieldText, fieldText, textOf]
  cases ((entry.field? key).getD .null).toText with
  | ok s => exact .inr ⟨s, rfl⟩
  | error message => exact .inl ⟨_, rfl, rfl⟩

/-- The advice of an entry, or the one that stands for it. -/
def fixOf (entry : Value) : Except RulesError String :=
  match entry.field? "fix" with
  | some v => textOf v
  | none => pure defaultFix

@[simp]
theorem undeclared_fixOf : Undeclared (fixOf entry) ↔ entry.IsOverlong "fix" := by
  rw [fixOf, Value.IsOverlong]
  cases entry.field? "fix" with
  | none => exact ⟨fun h => absurd h not_undeclared_ok, nofun⟩
  | some v =>
      rw [undeclared_textOf]
      exact ⟨fun h => ⟨v, rfl, h⟩, fun ⟨_, h, hv⟩ => by cases h; exact hv⟩

/-- The rule of an entry whose pattern and severity are known. -/
def withTexts (entry : Value) (severity : Severity) (p : NamedPattern) :
    Except RulesError Rule := do
  let name ← fieldText entry "name"
  let message ← fieldText entry "message"
  let fix ← fixOf entry
  return { name, pattern := p.pattern, secretGroup := p.names.lookup secretGroupName, severity
           message, fix }

@[simp]
theorem undeclared_withTexts {severity : Severity} {p : NamedPattern} :
    Undeclared (withTexts entry severity p) ↔
      ∃ key ∈ ["name", "message", "fix"], entry.IsOverlong key := by
  simp only [withTexts, undeclared_bind, undeclared_pure, undeclared_fieldText, undeclared_fixOf,
    exists_and_right, and_false, exists_false, or_false, List.mem_cons, List.not_mem_nil,
    exists_eq_or_imp, exists_eq_left]
  -- a text is asked for only if there are those before it, and there is each one or it is overlong
  refine ⟨fun h => h.imp_right fun h => h.2.imp_right fun h => h.2, fun h => ?_⟩
  rcases fieldText_total entry "name" with hname | hname
  · exact .inl hname
  refine h.imp_right fun h => ⟨hname, ?_⟩
  rcases fieldText_total entry "message" with hmessage | hmessage
  · exact .inl hmessage
  · exact h.imp_right fun h => ⟨hmessage, h⟩

/-- What makes a rule of an entry that is complete: its pattern, then its texts. -/
theorem ofEntry_complete (h : IsComplete entry) (index : Nat) :
    ∃ severity, severityOf? entry = some severity ∧
      ofEntry index entry = patternOf index entry >>= fun p =>
        if p.pattern.occursIn [] then .error (.declared (.entry index .matchesNothing))
        else withTexts entry severity p := by
  obtain ⟨fields, rfl⟩ := h.mapping
  obtain ⟨severity, hseverity⟩ := Option.isSome_iff_exists.1 h.severity
  have hmissing : requiredKeys.filter (!isGiven (.map fields) ·) = [] := by
    rw [List.filter_eq_nil_iff]
    intro key hkey
    rw [h.given key hkey]
    decide
  refine ⟨severity, hseverity, ?_⟩
  rw [ofEntry, hmissing, hseverity]
  refine congrArg _ (funext fun p => ?_)
  simp only [withTexts, fixOf]
  cases (Value.map fields).field? "fix" <;> cases p.pattern.occursIn [] <;> rfl

/-- An entry that is not complete is at fault. -/
theorem exists_hasFault (h : ¬IsComplete entry) : ∃ fault, HasFault entry fault := by
  cases entry with
  | map fields =>
      by_cases hmissing : requiredKeys.filter (!isGiven (.map fields) ·) = []
      · have hgiven : ∀ key ∈ requiredKeys, isGiven (.map fields) key = true := fun key hkey => by
          simpa using List.filter_eq_nil_iff.1 hmissing key hkey
        refine ⟨.severity, .severity rfl hgiven ?_⟩
        cases hs : severityOf? (.map fields) with
        | none => rfl
        | some severity => exact absurd ⟨⟨fields, rfl⟩, hgiven, by rw [hs]; rfl⟩ h
      · exact ⟨_, .missing rfl hmissing⟩
  | _ => exact ⟨.notAMapping, .notAMapping nofun⟩

/-- An entry at fault is refused for it. -/
theorem HasFault.refused {fault : EntryFault} (h : HasFault entry fault) (index : Nat) :
    ofEntry index entry = .error (.declared (.entry index fault)) := by
  cases h with
  | notAMapping hmapping =>
      cases entry with
      | map fields => exact absurd rfl (hmapping fields)
      | _ => rfl
  | missing hmapping hmissing =>
      subst hmapping
      rw [ofEntry]
      simp only [List.isEmpty_iff, hmissing]
      rfl
  | severity hmapping hgiven hseverity =>
      subst hmapping
      have hmissing : requiredKeys.filter (!isGiven (.map _) ·) = [] :=
        List.filter_eq_nil_iff.2 fun key hkey => by rw [hgiven key hkey]; decide
      rw [ofEntry, hmissing, hseverity]
      rfl
  | pattern hc he =>
      obtain ⟨severity, -, hentry⟩ := ofEntry_complete hc index
      obtain ⟨written, hwritten, he⟩ := he
      rw [hentry, patternOf, hwritten]
      simp only [bind, Except.bind, he]
      rfl
  | matchesNothing hc hp hsolid =>
      obtain ⟨severity, -, hentry⟩ := ofEntry_complete hc index
      rw [hentry, patternOf_eq_ok.2 hp]
      exact if_pos hsolid

theorem undeclared_ofEntry :
    Undeclared (ofEntry index entry) ↔ IsComplete entry ∧ Unmakeable entry := by
  by_cases hc : IsComplete entry
  · obtain ⟨severity, -, hentry⟩ := ofEntry_complete hc index
    rw [hentry, undeclared_bind, undeclared_patternOf]
    simp only [patternOf_eq_ok, undeclared_check, undeclared_withTexts]
    constructor
    · rintro ((h | ⟨refusal, hread, hrefusal⟩) | ⟨p, hread, hempty, key, hkey, h⟩)
      · exact ⟨hc, .pattern h⟩
      · exact ⟨hc, .refused hread hrefusal⟩
      · exact ⟨hc, .field hread hempty hkey h⟩
    · rintro ⟨-, h | ⟨hread, hrefusal⟩ | ⟨hread, hempty, hkey, h⟩⟩
      · exact .inl (.inl h)
      · exact .inl (.inr ⟨_, hread, hrefusal⟩)
      · exact .inr ⟨_, hread, hempty, _, hkey, h⟩
  · obtain ⟨fault, hfault⟩ := exists_hasFault hc
    rw [hfault.refused index]
    exact ⟨fun h => absurd h not_undeclared_declared, fun h => absurd h.1 hc⟩

theorem ofEntries_cons {seen : List String} {rest : List Value} :
    ofEntries index seen (entry :: rest) = ofEntry index entry >>= fun rule =>
      if seen.contains rule.name then .error (.declared (.repeatedName rule.name))
      else ofEntries (index + 1) (rule.name :: seen) rest >>= fun rules => pure (rule :: rules) :=
  rfl

/-- Entries fail in a way that is not declared at an entry of which no rule can be made, if rules
of different names can be made of the entries before it. -/
theorem undeclared_ofEntries {items : List Value} {seen : List String} :
    Undeclared (ofEntries index seen items) ↔ ∃ before entry after,
      items = before ++ entry :: after ∧ (ofEntries index seen before).isOk = true ∧
        IsComplete entry ∧ Unmakeable entry := by
  induction items generalizing index seen with
  | nil => exact ⟨fun h => absurd h not_undeclared_ok, fun ⟨before, _, _, h, _⟩ => by simp at h⟩
  | cons entry rest ih =>
      rw [ofEntries_cons, undeclared_bind, undeclared_ofEntry]
      simp only [undeclared_check, undeclared_map, ih]
      constructor
      · rintro (h | ⟨rule, hrule, hseen, before, entry', after, rfl, hbefore, h⟩)
        · exact ⟨[], entry, rest, rfl, rfl, h⟩
        · refine ⟨entry :: before, entry', after, rfl, ?_, h⟩
          rw [ofEntries_cons, isOk_bind (b := true) fun rule' hrule' => ?_, hrule]
          · rfl
          cases hrule.symm.trans hrule'
          rw [hseen]
          exact isOk_map.trans hbefore
      · rintro ⟨before, entry', after, hitems, hbefore, h⟩
        cases before with
        | nil =>
            cases hitems
            exact .inl h
        | cons e before =>
            cases hitems
            obtain ⟨rules, hbefore⟩ := isOk_eq_true.1 hbefore
            rw [ofEntries_cons, bind_eq_ok] at hbefore
            obtain ⟨rule, hrule, hbefore⟩ := hbefore
            cases hseen : seen.contains rule.name with
            | true =>
                rw [hseen] at hbefore
                cases hbefore
            | false =>
                rw [hseen] at hbefore
                refine .inr ⟨rule, hrule, hseen, before, entry', after, rfl, ?_, h⟩
                exact isOk_map.symm.trans (congrArg Except.isOk hbefore)

section Document

variable [SetOrder]

theorem not_undeclared_listed {d : Document} {n : Nat} : ¬Undeclared (listed d n) := by
  rw [listed]
  cases d.items? d.fieldwise n with
  | some _ => exact not_undeclared_ok
  | none => exact not_undeclared_declared

@[simp]
theorem not_undeclared_entries {document : Option Document} : ¬Undeclared (entries document) := by
  cases document with
  | none => exact not_undeclared_ok
  | some d =>
      rw [entries]
      split
      · split
        · exact not_undeclared_listed
        · exact not_undeclared_ok
      · exact not_undeclared_ok
      · exact not_undeclared_listed

theorem undeclared_load {text : String} :
    Undeclared (load text) ↔ (∃ e, Document.ofText text = .error e ∧ e.isOfValue = true) ∨
      ∃ document items before entry after, Document.ofText text = .ok document ∧
        entries document = .ok items ∧ items = before ++ entry :: after ∧
        (ofEntries 1 [] before).isOk = true ∧ IsComplete entry ∧ Unmakeable entry := by
  rw [load]
  cases hread : Document.ofText text with
  | ok document =>
      simp only [undeclared_bind, not_undeclared_entries, false_or, undeclared_ofEntries]
      constructor
      · rintro ⟨items, hitems, before, entry, after, h⟩
        exact .inr ⟨document, items, before, entry, after, rfl, hitems, h⟩
      · rintro (⟨_, ⟨⟩, _⟩ | ⟨_, items, before, entry, after, ⟨⟩, hitems, h⟩)
        exact ⟨items, hitems, before, entry, after, h⟩
  | error e =>
      have hdocument : ¬∃ document items before entry after,
          (Except.error e : Except Yaml.ReadError (Option Document)) = .ok document ∧
            entries document = .ok items ∧ items = before ++ entry :: after ∧
            (ofEntries 1 [] before).isOk = true ∧ IsComplete entry ∧ Unmakeable entry := by
        rintro ⟨_, _, _, _, _, ⟨⟩, _⟩
      rw [or_iff_left hdocument]
      cases e with
      | document c => exact ⟨fun h => absurd h not_undeclared_declared, by rintro ⟨_, ⟨⟩, ⟨⟩⟩⟩
      | value f => exact ⟨fun _ => ⟨_, rfl, rfl⟩, fun _ => ⟨_, rfl, rfl⟩⟩
      | bare f => exact ⟨fun _ => ⟨_, rfl, rfl⟩, fun _ => ⟨_, rfl, rfl⟩⟩
      | halfCharacter => exact ⟨by rintro ⟨_, ⟨⟩, ⟨⟩⟩, by rintro ⟨_, ⟨⟩, ⟨⟩⟩⟩

/-- **What gets past the declared failure.** Loading rules neither returns rules nor fails in the
way that is declared, nor is what it does left open, if and only if the text fails for a value in
it, or there is an entry of which no rule can be made, with which nothing declared is wrong, after
entries that make rules. -/
theorem loadFrom_undeclared_iff (source text : String) :
    ¬((∃ rules, loadFrom source text = .ok rules) ∨
        (∃ f, loadFrom source text = .error (.rules source f)) ∨
        loadFrom source text = .error .halfCharacter) ↔
      (∃ e, Document.ofText text = .error e ∧ e.isOfValue = true) ∨
        ∃ document items before entry after, Document.ofText text = .ok document ∧
          entries document = .ok items ∧ items = before ++ entry :: after ∧
          (ofEntries 1 [] before).isOk = true ∧ IsComplete entry ∧ Unmakeable entry := by
  rw [← undeclared_load, loadFrom]
  cases load text with
  | ok rules => exact ⟨fun h => absurd (.inl ⟨rules, rfl⟩) h, fun h => absurd h not_undeclared_ok⟩
  | error e =>
      cases e with
      | declared f =>
          exact ⟨fun h => absurd (.inr (.inl ⟨f, rfl⟩)) h,
            fun h => absurd h not_undeclared_declared⟩
      | value message => exact ⟨fun _ => ⟨_, rfl, rfl⟩, by rintro - (⟨_, ⟨⟩⟩ | ⟨_, ⟨⟩⟩ | ⟨⟨⟩⟩)⟩
      | bare f => exact ⟨fun _ => ⟨_, rfl, rfl⟩, by rintro - (⟨_, ⟨⟩⟩ | ⟨_, ⟨⟩⟩ | ⟨⟨⟩⟩)⟩
      | halfCharacter => exact ⟨fun h => absurd (.inr (.inr rfl)) h, by rintro ⟨_, ⟨⟩, ⟨⟩⟩⟩

end Document

/-- One entry, with a count that is larger than a count may be. -/
def largeCount : String :=
  "- \x7bname: T, pattern: 'a\x7b4294967295\x7d', severity: error, message: m\x7d"

/-- A pattern with such a count is no pattern, and is not refused as one. -/
theorem loadFrom_refuses_count :
    ¬∀ source text, (∃ rules, loadFrom source text = .ok rules) ∨
      ∃ f, loadFrom source text = .error (.rules source f) := by
  intro h
  have hload : load largeCount = .error (.bare .codeTooLarge) := by
    have hbare : (match load largeCount with
        | .error (.bare f) => some f
        | _ => none) = some .codeTooLarge := by decide +kernel
    split at hbare
    · next f hf => rw [hf, Option.some.inj hbare]
    · cases hbare
  rcases h "rules.yml" largeCount with ⟨_, h⟩ | ⟨_, h⟩ <;> rw [loadFrom, hload] at h <;> cases h

end Rule

end SecretScan

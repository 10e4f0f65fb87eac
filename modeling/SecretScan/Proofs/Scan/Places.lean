import SecretScan.Proofs.Scan.Secrets

/-!
# The places of findings

A finding says where it was found by a line and a column, and its key is what was matched
there. `StandsAt` puts it at a position in the text as a whole. That is a place where the
pattern of its rule matches (`spot_of_finding`), and what is matched and reported at such a
place is found there (`finding_of_spot`).

Findings come line by line, and those of one rule on one line come from left to right
without overlapping (`Follows`). So two findings of one rule are the same one, or they stand
apart (`secrets_apart`).
-/

namespace SecretScan

namespace Rewrite

open Pattern Secrets Text

/-! ## Positions of lines -/

theorem lineStarts_length (ls : List (List Char)) (pos : Nat) :
    (lineStarts pos ls).length = ls.length := by
  induction ls generalizing pos with
  | nil => rfl
  | cons line rest ih => rw [lineStarts, List.length_cons, List.length_cons, ih]

theorem exists_lineStart {ls : List (List Char)} {k : Nat} {line : List Char}
    (h : ls[k]? = some line) (pos : Nat) : ∃ n, (lineStarts pos ls)[k]? = some n := by
  have hlt : k < (lineStarts pos ls).length := by
    rw [lineStarts_length]
    exact (List.getElem?_eq_some_iff.1 h).1
  exact ⟨_, List.getElem?_eq_getElem hlt⟩

theorem lineStarts_le {ls : List (List Char)} : ∀ {pos k a : Nat},
    (lineStarts pos ls)[k]? = some a → pos ≤ a := by
  induction ls with
  | nil => intro pos k a h; simp [lineStarts] at h
  | cons line rest ih =>
      intro pos k a h
      cases k with
      | zero =>
          obtain rfl : pos = a := by simpa [lineStarts] using h
          exact Nat.le_refl pos
      | succ k =>
          have hle : pos + line.length + 1 ≤ a := ih h
          omega

/-- A line ends before a later one begins. -/
theorem lineStarts_lt {ls : List (List Char)} {line : List Char} : ∀ {pos j k a b : Nat},
    (lineStarts pos ls)[j]? = some a → ls[j]? = some line → (lineStarts pos ls)[k]? = some b →
      j < k → a + line.length < b := by
  induction ls with
  | nil => intro pos j k a b h; simp [lineStarts] at h
  | cons first rest ih =>
      intro pos j k a b ha hline hb hlt
      obtain ⟨k, rfl⟩ : ∃ n, k = n + 1 := ⟨k - 1, by omega⟩
      cases j with
      | zero =>
          obtain rfl : pos = a := by simpa [lineStarts] using ha
          obtain rfl : first = line := by simpa using hline
          have hle : pos + first.length + 1 ≤ b := lineStarts_le hb
          omega
      | succ j =>
          have ha' : (lineStarts (pos + first.length + 1) rest)[j]? = some a := ha
          exact ih ha' hline hb (by omega)

/-! ## Findings and matches -/

/-- Whether a matched text is reported. -/
def isReportedText (w : List Char) : Bool := !w.isEmpty && !Suppression.isSuppressed w

theorem isReported_eq (m : Match) : Scan.isReported true m = isReportedText m.text := by
  rw [Scan.isReported, Bool.true_and, isReportedText]

/-- The place of a finding: where its line begins, and where it begins in the line. -/
structure StandsAt (s : List Char) (f : Finding) (a : Nat) (w : List Char) : Prop where
  key : f.key = String.ofList w
  line : ∃ k n : Nat, f.line = k + 1 ∧ LineStart s k n ∧ (n : Int) + f.column - 1 = a

theorem StandsAt.unique {s : List Char} {f : Finding} {a b : Nat} {w v : List Char}
    (h : StandsAt s f a w) (h' : StandsAt s f b v) : a = b ∧ w = v := by
  obtain ⟨j, n, hj, hn, ha⟩ := h.line
  obtain ⟨k, n', hk, hn', hb⟩ := h'.line
  obtain rfl : j = k := by omega
  obtain rfl := hn.unique hn'
  exact ⟨by omega, String.ofList_injective (h.key.symm.trans h'.key)⟩

/-- A match on a line is found at its place in the text. -/
theorem standsAt_ruleFinding {s : List Char} {k n : Nat}
    (hstart : (lineStarts 0 (lines s))[k]? = some n) {m : Match}
    (hreported : Scan.isReported true m = true) (path : String) (rule : Rule) :
    StandsAt s (Scan.ruleFinding path (1 + k) rule m) (n + m.start) m.text := by
  obtain ⟨n', hn, hlineStart⟩ := lineStart_of_getElem? hstart
  rw [Nat.zero_add] at hn
  refine ⟨Scan.key_ruleFinding hreported _ _ _, k, n, ?_, hn ▸ hlineStart, ?_⟩
  · show ((1 + k : Nat) : Int) = k + 1
    omega
  · show (n : Int) + ((m.start : Int) + 1) - 1 = ((n + m.start : Nat) : Int)
    omega

/-- A finding is matched at its place. -/
theorem spot_of_finding {path : String} {s : List Char} {g : Finding} (hg : g ∈ secretsIn path s) :
    ∃ rule ∈ rules, ∃ a w, (a, w) ∈ textSpots rule.pattern 0 s ∧ isReportedText w = true ∧
      g.rule = rule.name ∧ StandsAt s g a w := by
  obtain ⟨k, line, hline, rule, hrule, m, hm, hreported, rfl⟩ := mem_secretsIn.1 hg
  obtain ⟨n, hstart⟩ := exists_lineStart hline 0
  refine ⟨rule, hrule, _, m.text, mem_lineSpots.2 ⟨k, _, line, hstart, hline, m, hm, rfl⟩, ?_, rfl,
    standsAt_ruleFinding hstart hreported path rule⟩
  rw [← isReported_eq]
  exact hreported

/-- What is matched somewhere in the text and reported, is found there. -/
theorem finding_of_spot {s : List Char} {rule : Rule} (hrule : rule ∈ rules) {a : Nat}
    {w : List Char} (h : (a, w) ∈ textSpots rule.pattern 0 s) (hreported : isReportedText w = true)
    (path : String) : ∃ f ∈ secretsIn path s, f.rule = rule.name ∧ StandsAt s f a w := by
  obtain ⟨k, n, line, hstart, hline, m, hm, heq⟩ := mem_lineSpots.1 h
  obtain ⟨rfl, rfl⟩ := Prod.mk.inj heq
  rw [← isReported_eq] at hreported
  exact ⟨_, mem_secretsIn.2 ⟨k, line, hline, rule, hrule, m, hm, hreported, rfl⟩, rfl,
    standsAt_ruleFinding hstart hreported path rule⟩

end Rewrite

/-! ## The order of findings -/

namespace Scan

open Pattern

/-- One finding comes after another: on a later line, or on the same line and behind it, if
both are of one rule. -/
def Follows (f g : Finding) : Prop :=
  f.line < g.line ∨ (f.line = g.line ∧ (f.rule = g.rule → f.column + f.key.length ≤ g.column))

theorem ruleFindings_follow (suppress : Bool) (file : String) (number : Nat) (line : List Char)
    (rule : Rule) : (ruleFindings suppress file number line rule).Pairwise Follows := by
  rw [ruleFindings, List.pairwise_map]
  refine ((allIn_gathered rule.pattern line).ordered.filter _).imp_of_mem ?_
  intro m n hm _ hmn
  refine Or.inr ⟨rfl, fun _ => ?_⟩
  rw [key_ruleFinding (List.mem_filter.1 hm).2, String.length_ofList]
  rw [Match.stop] at hmn
  show ((m.start : Int) + 1) + m.text.length ≤ (n.start : Int) + 1
  omega

theorem linesFindings_follow {catalog : Catalog} {rules : List Rule}
    (hnames : (rules.map (·.name)).Nodup) {file : String} : ∀ {ls : List (List Char)}
      {number : Nat}, (linesFindings catalog rules [] file number ls).Pairwise Follows := by
  intro ls
  induction ls with
  | nil => intro number; exact List.Pairwise.nil
  | cons line rest ih =>
      intro number
      rw [linesFindings, lineFindings, List.filter_nil, List.append_nil, List.pairwise_append,
        List.pairwise_flatMap]
      refine ⟨⟨fun rule _ => ruleFindings_follow _ _ _ _ rule, ?_⟩, ih, ?_⟩
      · refine (List.pairwise_map.1 hnames).imp ?_
        intro rule rule' hne f hf g hg
        obtain ⟨m, -, rfl⟩ := List.mem_map.1 hf
        obtain ⟨n, -, rfl⟩ := List.mem_map.1 hg
        exact Or.inr ⟨rfl, fun heq => absurd heq hne⟩
      · intro f hf g hg
        obtain ⟨rule, -, hf⟩ := List.mem_flatMap.1 hf
        obtain ⟨m, -, rfl⟩ := List.mem_map.1 hf
        obtain ⟨k, line', -, rule', -, n, -, -, rfl⟩ := mem_linesFindings.1 hg
        left
        show (number : Int) < ((number + 1 + k : Nat) : Int)
        omega

end Scan

namespace Rewrite

open Pattern Secrets Text

theorem secretsIn_follow (path : String) (s : List Char) :
    (secretsIn path s).Pairwise Scan.Follows := by
  have hnames : (rules.map (·.name)).Nodup := by decide
  have hrules : catalog.rules.filter (fun r => SeverityFilter.all.passes r.severity) = rules :=
    List.filter_true _
  rw [secretsIn, Scan.content_of_rules rfl, hrules]
  exact Scan.linesFindings_follow hnames

/-- Of two findings of one rule the later one stands behind the earlier one. -/
theorem le_of_follows {path : String} {s : List Char} {f g : Finding} (hf : f ∈ secretsIn path s)
    (hg : g ∈ secretsIn path s) (hrule : f.rule = g.rule) (h : Scan.Follows f g) {a b : Nat}
    {w v : List Char} (ha : StandsAt s f a w) (hb : StandsAt s g b v) : a + w.length ≤ b := by
  rcases h with h | ⟨hline, h⟩
  · obtain ⟨j, line, hj, rule, -, m, hm, hreported, rfl⟩ := mem_secretsIn.1 hf
    obtain ⟨k, line', hk, rule', -, n, -, hreported', rfl⟩ := mem_secretsIn.1 hg
    have hlt : j < k := by
      have h : ((1 + j : Nat) : Int) < ((1 + k : Nat) : Int) := h
      omega
    obtain ⟨p, hp⟩ := exists_lineStart hj 0
    obtain ⟨q, hq⟩ := exists_lineStart hk 0
    obtain ⟨rfl, rfl⟩ := ha.unique (standsAt_ruleFinding hp hreported path rule)
    obtain ⟨rfl, -⟩ := hb.unique (standsAt_ruleFinding hq hreported' path rule')
    have hend := lineStarts_lt hp hj hq hlt
    have hstop := (allIn_matchIn hm).stop_le
    rw [Match.stop] at hstop
    omega
  · have hbehind := h hrule
    obtain ⟨j, n, hj, hn, ha'⟩ := ha.line
    obtain ⟨k, n', hk, hn', hb'⟩ := hb.line
    obtain rfl : j = k := by omega
    obtain rfl := hn.unique hn'
    rw [ha.key, String.length_ofList] at hbehind
    omega

/-- Two findings of one rule are the same one, or they stand apart. -/
theorem secrets_apart {path : String} {s : List Char} {i j : Nat} {f g : Finding}
    (hi : (secretsIn path s)[i]? = some f) (hj : (secretsIn path s)[j]? = some g)
    (hrule : f.rule = g.rule) {a b : Nat} {w v : List Char} (ha : StandsAt s f a w)
    (hb : StandsAt s g b v) : i = j ∨ a + w.length ≤ b ∨ b + v.length ≤ a := by
  have hf := List.mem_of_getElem? hi
  have hg := List.mem_of_getElem? hj
  have hfollow := List.pairwise_iff_getElem.1 (secretsIn_follow path s)
  obtain ⟨hilt, rfl⟩ := List.getElem?_eq_some_iff.1 hi
  obtain ⟨hjlt, rfl⟩ := List.getElem?_eq_some_iff.1 hj
  rcases Nat.lt_trichotomy i j with hlt | heq | hlt
  · exact Or.inr (Or.inl (le_of_follows hf hg hrule (hfollow i j hilt hjlt hlt) ha hb))
  · exact Or.inl heq
  · exact Or.inr (Or.inr (le_of_follows hg hf hrule.symm (hfollow j i hjlt hilt hlt) hb ha))

end Rewrite

end SecretScan

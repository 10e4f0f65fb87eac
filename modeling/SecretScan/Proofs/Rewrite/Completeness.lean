import SecretScan.Proofs.Env.Mapping
import SecretScan.Proofs.Rewrite.ImportLine
import SecretScan.Proofs.Rewrite.Quoted

/-!
# Quoted secrets are replaced

A secret between two equal quotes can be missed in two ways only: another match of its
pattern, or a literal that was replaced for an earlier rule, has one of the two quotes in it.
Everything else that overlaps the literal of the secret would end in a quote inside of it,
and there is none but the two (`Quoted.quote_positions`). So where the quotes are unclaimed,
the walk over the text comes by the literal (`Quoted.mem_allIn`), and when its rule has its
turn no settlement is in the way.

The literal is then settled for the secret itself. Another finding of the same rule does not
meet the secret, and outside of it there is only what stands before the body
(`owner_unique`).
-/

namespace SecretScan

namespace Rewrite

open Pattern Secrets Text

/-! ## The loops -/

section Loops

variable {file : FilePath} {s : List Char} {cs own : List Claim} {rule : String}

theorem settlements_append (table table' : List (String × Pattern)) :
    ∀ done : List Settlement, settlements file cs s done (table ++ table') =
      settlements file cs s (settlements file cs s done table) table' := by
  induction table with
  | nil => intro done; rfl
  | cons x table ih => intro done; rw [List.cons_append, settlements, settlements, ih]

theorem settleAll_append (ms ms' : List Match) : ∀ done : List Settlement,
    settleAll file rule own done (ms ++ ms') =
      settleAll file rule own (settleAll file rule own done ms) ms' := by
  induction ms with
  | nil => intro done; rfl
  | cons m ms ih => intro done; rw [List.cons_append, settleAll, settleAll, ih]

theorem subset_settleAll (ms : List Match) : ∀ done : List Settlement,
    done ⊆ settleAll file rule own done ms := by
  induction ms with
  | nil => intro done; exact List.Subset.refl done
  | cons m ms ih =>
      intro done
      rw [settleAll]
      exact List.Subset.trans (List.subset_append_left done _) (ih _)

theorem subset_settlements (table : List (String × Pattern)) : ∀ done : List Settlement,
    done ⊆ settlements file cs s done table := by
  induction table with
  | nil => intro done; exact List.Subset.refl done
  | cons x table ih =>
      intro done
      rw [settlements]
      refine List.Subset.trans ?_ (ih _)
      split
      · exact List.Subset.refl done
      · exact subset_settleAll _ done

/-- Every settlement that is added has the span of a match. -/
theorem mem_settleAll {t : Settlement} : ∀ {ms : List Match} {done : List Settlement},
    t ∈ settleAll file rule own done ms →
      t ∈ done ∨ ∃ m ∈ ms, t.edit.start = m.start ∧ t.edit.stop = m.stop := by
  intro ms
  induction ms with
  | nil => intro done h; exact Or.inl h
  | cons m ms ih =>
      intro done h
      rw [settleAll] at h
      rcases ih h with h | ⟨n, hn, hspan⟩
      · rcases List.mem_append.1 h with h | h
        · exact Or.inl h
        · right
          refine ⟨m, List.mem_cons_self, ?_⟩
          have h := Option.mem_toList.1 h
          unfold settle? at h
          split at h
          · cases h
          · obtain ⟨c, -, rfl⟩ := Option.map_eq_some_iff.1 h
            exact ⟨rfl, rfl⟩
      · exact Or.inr ⟨n, List.mem_cons_of_mem m hn, hspan⟩

/-- A match that no settlement overlaps is settled for its owner, when its turn comes. -/
theorem mem_settleAll_of_free {ms ms' : List Match} {m : Match} {done : List Settlement} {c : Claim}
    (hdone : ∀ t ∈ done, t.edit.overlaps m.start m.stop = false)
    (hms : ∀ n ∈ ms, n.stop ≤ m.start) (howner : own.find? (owns rule m) = some c) :
    (⟨⟨m.start, m.stop, replacement file c.variableName m⟩, c⟩ : Settlement) ∈
      settleAll file rule own done (ms ++ m :: ms') := by
  have hfree : ((settleAll file rule own done ms).any fun t =>
      t.edit.overlaps m.start m.stop) = false := by
    refine List.any_eq_false.2 fun t ht => ?_
    rw [Bool.not_eq_true]
    rcases mem_settleAll ht with ht | ⟨n, hn, -, hstop⟩
    · exact hdone t ht
    · have hle := hms n hn
      have hnot : ¬ m.start < t.edit.stop := by omega
      rw [Edit.overlaps, decide_eq_false hnot, Bool.false_and]
  rw [settleAll_append, settleAll]
  refine subset_settleAll ms' _ (List.mem_append_right _ ?_)
  rw [settle?, hfree, howner]
  exact List.mem_singleton_self _

end Loops

/-! ## The two quotes -/

namespace Replaced

/-- The position of the quote that opens a literal. -/
def opening (r : Replaced) : Nat := r.start + r.kept.length

/-- The position of the quote that closes a literal. -/
def closing (r : Replaced) : Nat := r.stop - 1

/-- Whether one of the two quotes of a literal is in a span. -/
def HasQuoteIn (r : Replaced) (start stop : Nat) : Prop :=
  (start ≤ r.opening ∧ r.opening < stop) ∨ (start ≤ r.closing ∧ r.closing < stop)

instance (r : Replaced) (start stop : Nat) : Decidable (r.HasQuoteIn start stop) :=
  inferInstanceAs (Decidable (_ ∨ _))

theorem stop_eq (r : Replaced) : r.stop = r.start + r.kept.length + r.body.length + 2 := by
  simp only [stop, literal, List.length_append, List.length_cons, List.length_nil]
  omega

end Replaced

/-- The rules that claim literals before a rule does. -/
def earlierLiterals (rule : String) : List (String × Pattern) :=
  literals.takeWhile fun x => x.1 ≠ rule

/-- Neither quote of a literal belongs to another match of the pattern, or to a literal that
was replaced for an earlier rule. -/
structure Unclaimed (file : FilePath) (cs : List Claim) (s : List Char) (pattern : Pattern)
    (r : Replaced) : Prop where
  own : ∀ m ∈ pattern.allIn s, r.HasQuoteIn m.start m.stop → m.start = r.start ∧ m.stop = r.stop
  earlier : ∀ t ∈ settlements file cs s [] (earlierLiterals r.finding.rule),
    ¬ r.HasQuoteIn t.edit.start t.edit.stop

/-- A quote within a literal that has none in its parts is one of the two. -/
theorem quote_positions {s : List Char} {r : Replaced} (hstands : r.literal <+: s.drop r.start)
    (hkept : ∀ c ∈ quotes, c ∉ r.kept) (hbody : ∀ c ∈ quotes, c ∉ r.body) {p : Nat} {c : Char}
    (hp : s[p]? = some c) (hc : c ∈ quotes) (hlo : r.start ≤ p) (hhi : p < r.stop) :
    p = r.opening ∨ p = r.closing := by
  obtain ⟨i, rfl⟩ : ∃ i, p = r.start + i := ⟨p - r.start, by omega⟩
  have hi : r.literal[i]? = some c := by
    obtain ⟨tail, htail⟩ := hstands
    have hlt : i < r.literal.length := by rw [Replaced.stop] at hhi; omega
    rw [← List.getElem?_drop, ← htail, List.getElem?_append_left hlt] at hp
    exact hp
  rw [Replaced.opening, Replaced.closing, Replaced.stop_eq]
  rw [Replaced.stop_eq] at hhi
  rw [Replaced.literal] at hi
  rcases Nat.lt_trichotomy i r.kept.length with hlt | heq | hlt
  · rw [List.getElem?_append_left hlt] at hi
    exact absurd (List.mem_of_getElem? hi) (hkept c hc)
  · exact Or.inl (by omega)
  · obtain ⟨j, rfl⟩ : ∃ j, i = r.kept.length + (j + 1) := ⟨i - r.kept.length - 1, by omega⟩
    rw [List.getElem?_append_right (by omega), Nat.add_sub_cancel_left, List.getElem?_cons_succ] at hi
    rcases Nat.lt_or_ge j r.body.length with hlt | hge
    · rw [List.getElem?_append_left hlt] at hi
      exact absurd (List.mem_of_getElem? hi) (hbody c hc)
    · exact Or.inr (by omega)

/-- What ends in a quote and overlaps such a literal has one of the two quotes in it. -/
theorem hasQuoteIn_of_overlap {s : List Char} {r : Replaced}
    (hstands : r.literal <+: s.drop r.start)
    (hkept : ∀ c ∈ quotes, c ∉ r.kept) (hbody : ∀ c ∈ quotes, c ∉ r.body) {start stop : Nat}
    {w : List Char} {q : Char} (hw : (w ++ [q]) <+: s.drop start) (hq : q ∈ quotes)
    (hstop : stop = start + (w.length + 1)) (hlo : start < r.stop) (hhi : r.start < stop) :
    r.HasQuoteIn start stop := by
  have hlast : s[start + w.length]? = some q := by
    obtain ⟨tail, htail⟩ := hw
    rw [← List.getElem?_drop, ← htail, List.append_assoc, List.getElem?_append_right (Nat.le_refl _),
      Nat.sub_self]
    rfl
  have hlen := r.stop_eq
  rcases Nat.lt_or_ge (start + w.length) r.stop with hlt | hge
  · rcases quote_positions hstands hkept hbody hlast hq (by omega) hlt with h | h
    · exact Or.inl ⟨by omega, by omega⟩
    · exact Or.inr ⟨by omega, by omega⟩
  · exact Or.inr ⟨by rw [Replaced.closing]; omega, by rw [Replaced.closing]; omega⟩

/-! ## The literal is found -/

/-- What is found for a secret whose quotes are unclaimed: the literal is a match, and its
parts hold no quotes. -/
structure Matched (s : List Char) (pattern : Pattern) (r : Replaced) (m : Match) : Prop where
  mem : m ∈ pattern.allIn s
  start : m.start = r.start
  stop : m.stop = r.stop
  parts : LiteralParts m r.kept r.quote r.body
  kept : ∀ c ∈ quotes, c ∉ r.kept
  body : ∀ c ∈ quotes, c ∉ r.body

theorem literals_eat {rule : String} {pattern : Pattern} (h : (rule, pattern) ∈ literals) :
    pattern.eats = true := by
  have hall : ∀ x ∈ literals, x.2.eats = true := by decide
  exact hall _ h

theorem Quoted.matched {path : String} {s : List Char} {r : Replaced} {pattern : Pattern}
    (h : Quoted s r) (hpattern : (r.finding.rule, pattern) ∈ literals)
    (hfound : r.finding ∈ secretsIn path s)
    (hown : ∀ m ∈ pattern.allIn s, r.HasQuoteIn m.start m.stop →
      m.start = r.start ∧ m.stop = r.stop) :
    ∃ m, Matched s pattern r m := by
  obtain ⟨before, body, rfl, hkept, hbody⟩ := h.reads hpattern hfound
  obtain ⟨hbare, hshuns, hshuns'⟩ := literals_quoteless hpattern
  obtain ⟨tail, htail⟩ := h.stands
  have hlen : r.start ≤ s.length := by
    have hlen := congrArg List.length htail
    simp only [Replaced.literal, List.length_append, List.length_cons, List.length_drop] at hlen
    omega
  obtain ⟨u, v, rfl, hu⟩ : ∃ u v, s = u ++ v ∧ u.length = r.start :=
    ⟨s.take r.start, s.drop r.start, (List.take_append_drop _ _).symm, by simp [hlen]⟩
  rw [← hu, List.drop_left] at htail
  obtain ⟨m, hm, hparts⟩ := literal_matchAt? hbare hshuns hshuns' hkept h.quote hbody u tail
  have hv : r.kept ++ r.quote :: (r.body ++ r.quote :: tail) = v := by
    rw [← htail, Replaced.literal]
    simp
  rw [hv] at hm
  have hstart : m.start = r.start := (matchAt?_start hm).trans hu
  have hstop : m.stop = r.stop := by rw [Match.stop, hstart, hparts.text, Replaced.stop, Replaced.literal]
  refine ⟨m, ?_, hstart, hstop, hparts, hkept.shuns hshuns, hbody.shuns hshuns'⟩
  rcases allIn_visits (literals_eat hpattern) hm with hmem | ⟨n, hn, hlo, hhi⟩
  · exact hmem
  · -- a match across the place of the literal would have one of its quotes
    exfalso
    have hin := allIn_matchIn hn
    obtain ⟨x, q, y, hparts', -⟩ := literal_parts hbare.1 hbare.2 hin
    have htext : n.text = (x ++ q :: y) ++ [q] := by rw [hparts'.text]; simp
    have hprefix : ((x ++ q :: y) ++ [q]) <+: (u ++ v).drop n.start := by
      rw [hin.text_eq, hin.start_eq, ← List.length_reverse, List.drop_left, ← htext]
      exact List.prefix_append _ _
    have hnstop : n.stop = n.start + ((x ++ q :: y).length + 1) := by
      rw [Match.stop, htext, List.length_append, List.length_singleton]
    have hlt := r.start_lt_stop
    have hquote := hasQuoteIn_of_overlap h.stands (hkept.shuns hshuns) (hbody.shuns hshuns') hprefix
      (mem_quotes hparts'.quote) hnstop (by omega) (by omega)
    have hsame := (hown n hn hquote).1
    omega

theorem Matched.found {s : List Char} {r : Replaced} {pattern : Pattern} {m : Match}
    (h : Matched s pattern r m) (hpattern : (r.finding.rule, pattern) ∈ literals) : Found s r :=
  ⟨pattern, m, hpattern, h.mem, h.start, h.parts⟩

/-! ## The literal has one owner -/

section Owner

variable {mapping : Env.Mapping} {path : String} {s : List Char} {r : Replaced}

theorem claim?_of_line {starts : List Nat} {index : Nat} {f : Finding}
    {name : String} {line lineStart : Nat} (hrule : isRewritable f.rule = true)
    (hname : mapping.name? f = some name) (hline : f.line = (line : Int) + 1)
    (hstart : starts[line]? = some lineStart) :
    claim? starts mapping index f = some ⟨index, f, name, lineStart + f.column - 1,
      lineStart + f.column - 1 + f.key.length⟩ := by
  have hline' : f.line = Int.ofNat (line + 1) := by rw [hline]; rfl
  rw [claim?, hrule, hname, hline']
  simp [hstart]

/-- A finding that can be rewritten and has a variable has a claim. -/
theorem claim_of_given {index : Nat} {f : Finding} {name : String}
    (h : (index, f) ∈ Remediation.numbered (secretsIn path s)) (hrule : isRewritable f.rule = true)
    (hname : mapping.name? f = some name) :
    ∃ c ∈ claims mapping s (Remediation.numbered (secretsIn path s)),
      c.index = index ∧ c.finding = f ∧ c.variableName = name := by
  have hmem := List.mem_of_getElem? (Remediation.mem_numbered.1 h)
  obtain ⟨k, line, hline, rule, -, m, -, -, hf⟩ := mem_secretsIn.1 hmem
  obtain ⟨n, hn⟩ := exists_lineStart hline 0
  have hk : f.line = (k : Int) + 1 := by
    rw [hf]
    show ((1 + k : Nat) : Int) = (k : Int) + 1
    omega
  exact ⟨_, List.mem_filterMap.2 ⟨_, h, claim?_of_line hrule hname hk hn⟩, rfl, rfl, rfl⟩

theorem claim_span {findings : List (Nat × Finding)} {c : Claim}
    (h : c ∈ claims mapping s findings) {a : Nat} {w : List Char}
    (hstands : StandsAt s c.finding a w) : c.start = a ∧ c.stop = (a : Int) + w.length := by
  obtain ⟨-, hclaim⟩ := mem_claims h
  obtain ⟨name, line, lineStart, -, hline, hstart, heq⟩ := claim?_eq_some hclaim
  obtain ⟨n, hn, hlineStart⟩ := lineStart_of_getElem? hstart
  obtain ⟨k, n', hk, hn', ha⟩ := hstands.line
  obtain rfl : line = k := by omega
  obtain rfl := hlineStart.unique hn'
  have hc : c.start = lineStart + c.finding.column - 1 := congrArg Claim.start heq
  have hc' : c.stop = lineStart + c.finding.column - 1 + c.finding.key.length :=
    congrArg Claim.stop heq
  rw [hstands.key, String.length_ofList] at hc'
  omega

theorem claim_unique {findings : List (Nat × Finding)} (hnumbers : (findings.map (·.1)).Nodup)
    {c d : Claim} (hc : c ∈ claims mapping s findings) (hd : d ∈ claims mapping s findings)
    (h : c.index = d.index) : c = d := by
  obtain ⟨hgiven, hclaim⟩ := mem_claims hc
  obtain ⟨hgiven', hclaim'⟩ := mem_claims hd
  have hfinding : c.finding = d.finding :=
    congrArg Prod.snd (List.inj_on_of_nodup_map hnumbers hgiven hgiven' h)
  rw [h, hfinding] at hclaim
  exact Option.some.inj (hclaim.symm.trans hclaim')

/-- The secret of a finding is within its literal, and its place covers the body. -/
theorem Quoted.span (h : Quoted s r) : ∃ a w, StandsAt s r.finding a w ∧ r.start ≤ a ∧
    a ≤ r.start + r.kept.length + 1 ∧ r.stop ≤ a + w.length + 1 ∧ a + w.length ≤ r.stop := by
  have hlen := r.stop_eq
  rcases h.place with ⟨-, hstands⟩ | ⟨-, hkept, hstands⟩
  · have hstop : r.start + r.literal.length = r.stop := rfl
    exact ⟨_, _, hstands, by omega, by omega, by omega, by omega⟩
  · rw [hkept, List.length_nil] at hlen ⊢
    exact ⟨_, _, hstands, by omega, by omega, by omega, by omega⟩

/-- No other finding of the rule is within the literal. -/
theorem owner_unique (h : Quoted s r) (hfound : Found s r)
    (hgiven : (r.index, r.finding) ∈ Remediation.numbered (secretsIn path s)) {c : Claim}
    (hc : c ∈ claims mapping s (Remediation.numbered (secretsIn path s)))
    (hrule : c.finding.rule = r.finding.rule) (hlo : (r.start : Int) ≤ c.start)
    (hhi : c.stop ≤ (r.stop : Int)) : c.index = r.index := by
  have hgiven' := Remediation.mem_numbered.1 (mem_claims hc).1
  obtain ⟨rule, hmem, b, v, hspot, hreported, hname, hstands⟩ :=
    spot_of_finding (List.mem_of_getElem? hgiven')
  obtain ⟨hstart, hstop⟩ := claim_span hc hstands
  obtain ⟨a, w, hstands', hloA, hfront, hback, -⟩ := h.span
  rcases secrets_apart hgiven' (Remediation.mem_numbered.1 hgiven) hrule hstands hstands' with
    heq | hapart
  · exact heq
  · -- the other finding would lie before the body or behind it
    exfalso
    obtain ⟨x, y, hs, hx, -⟩ := textSpots_occurs hspot
    have hne : v ≠ [] := by
      rintro rfl
      simp [isReportedText] at hreported
    obtain ⟨u, z, heq⟩ := factor_of_outside h.stands hs hne (by omega) (by omega) (by omega)
    exact no_match_before_body hfound hmem (hrule.symm.trans hname) hspot hne heq

end Owner

/-! ## The literal is replaced -/

theorem earlierLiterals_append {rule : String} {pattern : Pattern}
    (h : (rule, pattern) ∈ literals) :
    ∃ later, literals = earlierLiterals rule ++ (rule, pattern) :: later := by
  simp only [literals, List.mem_cons, Prod.mk.injEq, List.not_mem_nil, or_false] at h
  rcases h with ⟨rfl, rfl⟩ | ⟨rfl, rfl⟩ | ⟨rfl, rfl⟩ | ⟨rfl, rfl⟩ <;> exact ⟨_, rfl⟩

theorem isRewritable_of_mem {rule : String} {pattern : Pattern} (h : (rule, pattern) ∈ literals) :
    isRewritable rule = true := by
  have hall : ∀ x ∈ literals, isRewritable x.1 = true := by decide
  exact hall _ h

/-- What was settled for earlier rules does not overlap a literal whose quotes are unclaimed. -/
theorem Unclaimed.apart {file : FilePath} {cs : List Claim} {s : List Char} {pattern : Pattern}
    {r : Replaced} {m : Match} (h : Unclaimed file cs s pattern r) (hm : Matched s pattern r m)
    (hstands : r.literal <+: s.drop r.start) :
    ∀ t ∈ settlements file cs s [] (earlierLiterals r.finding.rule),
      t.edit.overlaps m.start m.stop = false := by
  intro t ht
  have hnone : Settled file s cs [] := ⟨[], rfl, by simp, List.Pairwise.nil⟩
  obtain ⟨l, hl, hsettles, -⟩ := settled_settlements
    (fun x hx => (List.takeWhile_sublist _).subset hx) hnone
  rw [earlierLiterals, ← hl] at ht
  obtain ⟨x, hx, rfl⟩ := List.mem_map.1 ht
  have hx' := hsettles x hx
  refine Bool.eq_false_iff.2 fun hoverlap => ?_
  rw [Edit.overlaps, Bool.and_eq_true, decide_eq_true_eq, decide_eq_true_eq, hm.start, hm.stop,
    hx'.edit] at hoverlap
  have hprefix : (x.2.kept ++ x.2.quote :: x.2.body) ++ [x.2.quote] <+: s.drop x.2.start := by
    have h := hx'.found.literal_prefix
    rw [Replaced.literal] at h
    simpa using h
  have hstop : x.2.stop = x.2.start + ((x.2.kept ++ x.2.quote :: x.2.body).length + 1) := by
    rw [x.2.stop_eq, List.length_append, List.length_cons]
    omega
  have hquote := hasQuoteIn_of_overlap hstands hm.kept hm.body hprefix
    (mem_quotes hx'.found.isQuote) hstop hoverlap.2 hoverlap.1
  exact h.earlier x.1 (by rw [earlierLiterals, ← hl]; exact ht) (by rw [hx'.edit]; exact hquote)

/-- A quoted secret whose quotes are unclaimed is settled. -/
theorem quoted_settled {mapping : Env.Mapping} {file : FilePath} {path : String} {s : List Char}
    {r : Replaced} {pattern : Pattern} {name : String}
    (hgiven : (r.index, r.finding) ∈ Remediation.numbered (secretsIn path s))
    (hpattern : (r.finding.rule, pattern) ∈ literals) (hquoted : Quoted s r)
    (hname : mapping.name? r.finding = some name)
    (hfree : Unclaimed file (claims mapping s (Remediation.numbered (secretsIn path s))) s pattern r) :
    ∃ m, Matched s pattern r m ∧
      ∃ t ∈ settlements file (claims mapping s (Remediation.numbered (secretsIn path s))) s []
        literals, t.claim.index = r.index ∧ t.claim.finding = r.finding ∧
          t.claim.variableName = name ∧ t.edit.start = r.start := by
  have hmem := List.mem_of_getElem? (Remediation.mem_numbered.1 hgiven)
  obtain ⟨m, hm⟩ := hquoted.matched hpattern hmem hfree.own
  obtain ⟨c, hc, hindex, hfinding, hvariable⟩ :=
    claim_of_given hgiven (isRewritable_of_mem hpattern) hname
  let cs := claims mapping s (Remediation.numbered (secretsIn path s))
  let own := cs.filter (·.finding.rule = r.finding.rule)
  have hcown : c ∈ own := List.mem_filter.2 ⟨hc, by rw [hfinding]; simp⟩
  have howns : owns r.finding.rule m c = true := by
    obtain ⟨a, w, hstands, hlo, -, -, hhi⟩ := hquoted.span
    rw [← hfinding] at hstands
    obtain ⟨hstart, hstop⟩ := claim_span hc hstands
    simp only [owns, Bool.and_eq_true, decide_eq_true_eq]
    refine ⟨⟨?_, ?_⟩, ?_⟩
    · rw [hm.start]
      omega
    · rw [hm.stop]
      omega
    · rw [hm.parts.body, Option.getD_some, bodyHolds_iff, hfinding]
      exact Or.inl hquoted.secret
  have howner : own.find? (owns r.finding.rule m) = some c := by
    refine find?_eq_of_unique hcown howns ?_
    intro d hd howns'
    obtain ⟨hd, hrule⟩ := List.mem_filter.1 hd
    simp only [owns, Bool.and_eq_true, decide_eq_true_eq] at howns' hrule
    rw [hm.start, hm.stop] at howns'
    have hindex' := owner_unique hquoted (hm.found hpattern) hgiven hd hrule howns'.1.1 howns'.1.2
    exact claim_unique (Remediation.numbered_nodup _) hd hc (hindex'.trans hindex.symm)
  obtain ⟨ms, ms', hall⟩ := List.append_of_mem hm.mem
  have hbefore : ∀ n ∈ ms, n.stop ≤ m.start := by
    have hordered := (allIn_gathered pattern s).ordered
    rw [hall] at hordered
    exact fun n hn => (List.pairwise_append.1 hordered).2.2 n hn m List.mem_cons_self
  obtain ⟨later, hlater⟩ := earlierLiterals_append hpattern
  have hempty : own.isEmpty = false := List.isEmpty_eq_false_iff_exists_mem.2 ⟨c, hcown⟩
  refine ⟨m, hm, ⟨⟨m.start, m.stop, replacement file c.variableName m⟩, c⟩, ?_, hindex, hfinding,
    hvariable, hm.start⟩
  rw [hlater, settlements_append, settlements]
  refine subset_settlements later _ ?_
  rw [show (List.filter (fun c => decide (c.finding.rule = r.finding.rule)) cs).isEmpty = false from
    hempty, if_neg Bool.false_ne_true, hall]
  exact mem_settleAll_of_free (hfree.apart hm hquoted.stands) hbefore howner

theorem start_injective {pattern : Pattern} {s : List Char} {m n : Match}
    (heats : pattern.eats = true) (hm : m ∈ pattern.allIn s) (hn : n ∈ pattern.allIn s)
    (h : m.start = n.start) : m = n := by
  have hpos : ∀ {m : Match}, m ∈ pattern.allIn s → m.start < m.stop := fun hm =>
    eats_pos heats (allIn_matchIn hm).way
  have hltm := hpos hm
  have hltn := hpos hn
  rcases allIn_apart hm hn with heq | hle | hle
  · exact heq
  · omega
  · omega

/-- A literal that was settled at the place of a matched one is that literal. -/
theorem Matched.eq_of_settles {file : FilePath} {s : List Char} {cs : List Claim}
    {pattern : Pattern} {r r' : Replaced} {m : Match} {t : Settlement}
    (hm : Matched s pattern r m) (hpattern : (r.finding.rule, pattern) ∈ literals)
    (h : Settles file s cs t r') (hindex : t.claim.index = r.index)
    (hfinding : t.claim.finding = r.finding) (hstart : t.edit.start = r.start) :
    r' = { r with variableName := t.claim.variableName } := by
  have hfinding' : r'.finding = r.finding := h.finding.trans hfinding
  have hstart' : r'.start = r.start := by rw [← hstart, h.edit]; rfl
  obtain ⟨pattern', m', hpattern', hmem, hm', hparts⟩ := h.found
  rw [hfinding'] at hpattern'
  obtain rfl := literals_unique hpattern hpattern'
  obtain rfl := start_injective (literals_eat hpattern) hmem hm.mem (by rw [hm', hstart', hm.start])
  have hkept : r'.kept = r.kept := Option.some.inj (hparts.before.symm.trans hm.parts.before)
  have hquote : r'.quote = r.quote :=
    (List.cons.inj (Option.some.inj (hparts.opening.symm.trans hm.parts.opening))).1
  have hbody : r'.body = r.body := Option.some.inj (hparts.body.symm.trans hm.parts.body)
  have hvariable := h.variableName
  have hindex' := h.index.trans hindex
  cases r'
  cases r
  simp only at hstart' hkept hquote hbody hindex' hfinding' hvariable
  simp only [Replaced.mk.injEq]
  exact ⟨hstart', hkept, hquote, hbody, hindex', hfinding', hvariable⟩

/-- A secret that stands between two equal quotes is resolved, and its literal gives way to a
reference to its variable, if neither quote belongs to another match of its pattern or to a
literal of an earlier rule. A script with a null character is refused as a whole. -/
theorem pass_replaces_quoted (path : String) (s : List Char) {r : Replaced} {pattern : Pattern}
    (hgiven : (r.index, r.finding) ∈ Remediation.numbered (secretsIn path s))
    (hpattern : (r.finding.rule, pattern) ∈ literals) (hquoted : Quoted s r)
    (hfree : Unclaimed (FilePath.ofString path)
      (claims (variablesFor path s) s (Remediation.numbered (secretsIn path s))) s pattern r)
    (hnull : (FilePath.ofString path).kind = lookupSuffix →
      '\x00' ∉ (literalsIn (variablesFor path s) (FilePath.ofString path) s
        (Remediation.numbered (secretsIn path s))).text) :
    ∃ name rs t new, (variablesFor path s).name? r.finding = some name ∧
      pass path s = .ok new ∧ r.index ∈ new.resolved ∧
      Replaces (FilePath.ofString path) 0 rs s t ∧ { r with variableName := name } ∈ rs ∧
      (new.text = t ∨
        ∃ x y ins, t = x ++ y ∧ new.text = x ++ (ins ++ y) ∧ Script.ImportsAt x y ins) := by
  have hmem := List.mem_of_getElem? (Remediation.mem_numbered.1 hgiven)
  obtain ⟨e, -, hname, -⟩ := Env.Mapping.ofFindings_entry {} hmem
  obtain ⟨m, hm, t, ht, hindex, hfinding, hvariable, hstart⟩ :=
    quoted_settled hgiven hpattern hquoted hname hfree
  obtain ⟨rs, hreplaces, hperm, -, -, hsettled⟩ := literalsIn_settles (variablesFor path s)
    (FilePath.ofString path) s (Remediation.numbered (secretsIn path s))
  obtain ⟨r', hr', hsettles⟩ := hsettled t ht
  have heq := hm.eq_of_settles hpattern hsettles hindex hfinding hstart
  rw [hvariable] at heq
  obtain ⟨new, hnew⟩ := exists_source hnull
  obtain ⟨hresolved, htext⟩ := source_shape hnew
  refine ⟨e.name, rs, _, new, hname, hnew, ?_, hreplaces, heq ▸ hr', ?_⟩
  · rw [hresolved, ← hperm.mem_iff]
    have hsame : r'.index = r.index := by rw [heq]
    exact hsame ▸ List.mem_map_of_mem hr'
  · rcases htext with htext | ⟨-, htext⟩
    · exact Or.inl htext
    · exact Script.withVariables_importsAt htext

/-- A mail address behind the address of a database, in a script that gets a line for an import. -/
theorem pass_replaces_quoted_mail :
    let s := "\"redis://h\",\"a@b.co\"".toList
    let file := FilePath.ofString "a.py"
    let findings := Remediation.numbered (secretsIn "a.py" s)
    ∃ (r : Replaced) (pattern : Pattern), (r.index, r.finding) ∈ findings ∧
      (r.finding.rule, pattern) ∈ literals ∧ Quoted s r ∧
      Unclaimed file (claims (variablesFor "a.py" s) s findings) s pattern r ∧
      '\x00' ∉ (literalsIn (variablesFor "a.py" s) file s findings).text ∧
      ∃ name rs t new, (variablesFor "a.py" s).name? r.finding = some name ∧
        pass "a.py" s = .ok new ∧ r.index ∈ new.resolved ∧ Replaces file 0 rs s t ∧
        { r with variableName := name } ∈ rs ∧
        (new.text = t ∨
          ∃ x y ins, t = x ++ y ∧ new.text = x ++ (ins ++ y) ∧ Script.ImportsAt x y ins) := by
  intro s file findings
  let f : Finding :=
    { file := "a.py", line := 1, column := 14, shown := "a@b.co", rule := "Email Address"
      severity := .warning, message := "Email address found in code"
      fix := "Move to environment variable: process.env.CONTACT_EMAIL"
      matched := "a@b.co", secret := "a@b.co" }
  let g : Finding :=
    { file := "a.py", line := 1, column := 2, shown := "redis://h", rule := "Database URL"
      severity := .error, message := "Database connection string found"
      fix := "Use environment variable: process.env.DATABASE_URL"
      matched := "redis://h", secret := "redis://h" }
  let r : Replaced := ⟨12, [], '"', "a@b.co".toList, 0, f, ""⟩
  have hsecrets : secretsIn "a.py" s = [f, g] := by decide +kernel
  have hpattern : (r.finding.rule, emailLiteral) ∈ literals := by decide
  have hquoted : Quoted s r :=
    ⟨Or.inl rfl, by decide, by decide, Or.inr ⟨by decide, rfl, rfl, 0, 0, rfl, LineStart.zero s, rfl⟩⟩
  have hgiven : (r.index, r.finding) ∈ findings := by
    simp only [findings, hsecrets]
    decide
  have hfree : Unclaimed file (claims (variablesFor "a.py" s) s findings) s emailLiteral r := by
    simp only [findings, variablesFor, hsecrets]
    exact ⟨by decide +kernel, by decide +kernel⟩
  have hnull : '\x00' ∉ (literalsIn (variablesFor "a.py" s) file s findings).text := by
    simp only [findings, variablesFor, hsecrets]
    decide +kernel
  exact ⟨r, emailLiteral, hgiven, hpattern, hquoted, hfree, hnull,
    pass_replaces_quoted "a.py" s hgiven hpattern hquoted hfree fun _ => hnull⟩

/-- With a null character behind it the same mail address is not replaced: the script is refused. -/
theorem pass_refuses_null :
    let s := "u = \"a@b.co\"\x00".toList
    let findings := Remediation.numbered (secretsIn "a.py" s)
    ∃ (r : Replaced) (pattern : Pattern), (r.index, r.finding) ∈ findings ∧
      (r.finding.rule, pattern) ∈ literals ∧ Quoted s r ∧
      Unclaimed (FilePath.ofString "a.py") (claims (variablesFor "a.py" s) s findings) s pattern r ∧
      pass "a.py" s = .error Script.nullMessage := by
  intro s findings
  let f : Finding :=
    { file := "a.py", line := 1, column := 6, shown := "a@b.co", rule := "Email Address"
      severity := .warning, message := "Email address found in code"
      fix := "Move to environment variable: process.env.CONTACT_EMAIL"
      matched := "a@b.co", secret := "a@b.co" }
  have hsecrets : secretsIn "a.py" s = [f] := by decide +kernel
  refine ⟨⟨4, [], '"', "a@b.co".toList, 0, f, ""⟩, emailLiteral, ?_, by decide,
    ⟨Or.inl rfl, by decide, by decide, Or.inr ⟨by decide, rfl, rfl, 0, 0, rfl, LineStart.zero s, rfl⟩⟩,
    ?_, ?_⟩
  · simp only [findings, hsecrets]
    decide
  · simp only [findings, variablesFor, hsecrets]
    exact ⟨by decide +kernel, by decide +kernel⟩
  · simp only [pass, variablesFor, hsecrets]
    decide +kernel

end Rewrite

end SecretScan

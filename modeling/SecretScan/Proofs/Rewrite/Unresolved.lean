import SecretScan.Proofs.Rewrite.ApiKeys
import SecretScan.Proofs.Rewrite.Soundness
import SecretScan.Proofs.Scan.Places

/-!
# Findings that stay unresolved

A resolved finding lies within the literal that was replaced for it. What is matched outside
of the bodies of the replaced literals can be within one of them only as a part of what
stands before its body, and that is no match of the rule whose finding was resolved. So
what is matched there belongs to a finding that is still unresolved.
-/

namespace SecretScan

namespace Rewrite

open Pattern Secrets Text

/-! ## What stands before a body -/

theorem Found.isQuote {s : List Char} {r : Replaced} (h : Found s r) : IsQuote r.quote := by
  obtain ⟨pattern, m, -, -, -, hparts⟩ := h
  exact hparts.quote

/-- What stands before the body of a literal has no quote in it, and for most rules it is
nothing at all. -/
theorem Found.kept {s : List Char} {r : Replaced} (h : Found s r) :
    (r.finding.rule = "API Key (Generic)" ∧ ∀ q ∈ quotes, q ∉ r.kept) ∨
      (r.finding.rule ∈ ["Database URL", "JWT Token", "Email Address"] ∧ r.kept = []) := by
  obtain ⟨pattern, m, hrule, hm, -, hparts⟩ := h
  have hbefore : ∀ {before body : Pattern}, pattern = literal before body →
      before.isBare = true → body.isBare = true →
      ∃ c d m', c.Passes r.kept d ∧ (d, m') ∈ ways before c m' := by
    rintro before body rfl hbefore hbody
    obtain ⟨x, q, y, hparts', hway⟩ := literal_parts hbefore hbody (allIn_matchIn hm)
    obtain rfl : r.kept = x := Option.some.inj (hparts.before.symm.trans hparts'.before)
    obtain ⟨d, m', hpass, hd⟩ := hway.before_way
    exact ⟨_, d, m', hpass, hd⟩
  have hempty : ∀ {body : Pattern}, pattern = literal empty body → body.isBare = true →
      r.kept = [] := by
    intro body hpattern hbody
    obtain ⟨c, d, m', hpass, hd⟩ := hbefore hpattern rfl hbody
    rw [ways, List.mem_singleton] at hd
    have hafter := hpass.after
    rw [(Prod.mk.inj hd).1] at hafter
    have hlen := congrArg List.length hafter
    rw [List.length_append] at hlen
    exact List.length_eq_zero_iff.1 (by omega)
  simp only [literals, List.mem_cons, Prod.mk.injEq, List.not_mem_nil, or_false] at hrule
  rcases hrule with ⟨hname, hpattern⟩ | ⟨hname, hpattern⟩ | ⟨hname, hpattern⟩ | ⟨hname, hpattern⟩
  · left
    refine ⟨hname, ?_⟩
    obtain ⟨c, d, m', hpass, hd⟩ := hbefore hpattern (by decide) (by decide)
    obtain ⟨x, hx, hfree⟩ := shuns_passes (show Pattern.shuns false quotes _ = true by decide)
      _ hd
    have heq : x = r.kept := hx.take_eq.symm.trans hpass.take_eq
    exact heq ▸ hfree
  · exact Or.inr ⟨by simp [hname], hempty hpattern (by decide)⟩
  · exact Or.inr ⟨by simp [hname], hempty hpattern (by decide)⟩
  · exact Or.inr ⟨by simp [hname, emailRule], hempty hpattern (by decide)⟩

/-- What lies within a literal and does not meet its body, lies before the body. -/
theorem factor_of_outside {s u w v : List Char} {r : Replaced} (hr : r.literal <+: s.drop r.start)
    (hs : s = u ++ (w ++ v)) (hne : w ≠ []) (hlo : r.start ≤ u.length)
    (hhi : u.length + w.length ≤ r.stop)
    (hout : u.length + w.length ≤ r.start + r.kept.length + 1 ∨ r.stop ≤ u.length + 1) :
    ∃ x y, r.kept ++ [r.quote] = x ++ (w ++ y) := by
  obtain ⟨tail, htail⟩ := hr
  have hpos : 0 < w.length := List.length_pos_iff.2 hne
  have hstop : r.stop = r.start + (r.kept.length + (r.body.length + 1 + 1)) := by
    simp [Replaced.stop, Replaced.literal]
  have hdrop : s.drop r.start = u.drop r.start ++ (w ++ v) := by
    rw [hs, List.drop_append_of_le_length hlo]
  have hlen : (u.drop r.start).length = u.length - r.start := List.length_drop
  rw [hdrop] at htail
  rcases hout with hout | hout
  · have heq : (r.kept ++ [r.quote]) ++ (r.body ++ r.quote :: tail) =
        (u.drop r.start ++ w) ++ v := by
      rw [List.append_assoc _ w, ← htail]
      simp [Replaced.literal]
    rcases List.append_eq_append_iff.1 heq with ⟨n, hn, -⟩ | ⟨n, hn, -⟩
    · have hlen' := congrArg List.length hn
      simp only [List.length_append, List.length_singleton] at hlen'
      obtain rfl : n = [] := List.length_eq_zero_iff.1 (by omega)
      exact ⟨u.drop r.start, [], by rw [← List.append_nil (r.kept ++ _), ← hn]; simp⟩
    · exact ⟨u.drop r.start, n, by rw [hn]; simp⟩
  · have heq : (r.kept ++ r.quote :: r.body) ++ (r.quote :: tail) = u.drop r.start ++ (w ++ v) := by
      rw [← htail]
      simp [Replaced.literal]
    have hfront : (r.kept ++ r.quote :: r.body).length = (u.drop r.start).length := by
      simp only [List.length_append, List.length_cons]
      omega
    obtain ⟨-, hend⟩ := List.append_inj heq hfront
    cases w with
    | nil => exact absurd rfl hne
    | cons c w =>
        obtain ⟨rfl, -⟩ := List.cons.inj hend
        rw [List.length_cons] at hhi
        obtain rfl : w = [] := List.length_eq_zero_iff.1 (by omega)
        exact ⟨r.kept, [], by simp⟩

/-- What stands before a body is no match of the rule. -/
theorem no_match_before_body {s w : List Char} {r : Replaced} (hr : Found s r) {rule : Rule}
    (hrule : rule ∈ rules) (hname : r.finding.rule = rule.name) {a pos : Nat} {t : List Char}
    (hw : (a, w) ∈ textSpots rule.pattern pos t) (hne : w ≠ []) {x y : List Char} :
    r.kept ++ [r.quote] ≠ x ++ (w ++ y) := by
  intro heq
  have hquote := mem_quotes hr.isQuote
  rcases hr.kept with ⟨hrule', hkept⟩ | ⟨hrule', hkept⟩
  · -- a key has a quote before its last character
    have hpattern : ∀ rule ∈ rules, rule.name = "API Key (Generic)" →
        rule.pattern = apiKeyPattern := by decide
    rw [hpattern rule hrule (hname ▸ hrule')] at hw
    obtain ⟨name, rest, value, q, q', htext⟩ := apiKey_text (reads_of_textSpots (by decide) hw)
    have hw' : w = (name ++ rest ++ q :: value) ++ [q'] := by rw [htext.text]; simp
    rw [hw'] at heq
    have heq' : r.kept ++ [r.quote] = x ++ (name ++ rest ++ q :: value) ++ ([q'] ++ y) := by
      rw [heq]
      simp
    have hfront : q ∈ r.kept := by
      rcases List.append_eq_append_iff.1 heq' with ⟨n, hn, hend⟩ | ⟨n, hn, -⟩
      · have hlen := congrArg List.length hend
        simp only [List.length_append, List.length_singleton] at hlen
        obtain rfl : n = [] := List.length_eq_zero_iff.1 (by omega)
        rw [List.append_nil] at hn
        rw [← hn]
        simp
      · rw [hn]
        simp
    exact hkept q (mem_quotes htext.quote) hfront
  · -- the other rules shun quotes
    have hshuns : ∀ rule ∈ rules, rule.name ∈ ["Database URL", "JWT Token", "Email Address"] →
        rule.pattern.shuns true quotes = true := by decide +kernel
    rw [hname] at hrule'
    obtain ⟨c, v, hv, hpass⟩ := textSpots_way hw
    obtain ⟨w', hw', hfree⟩ := shuns_passes (hshuns rule hrule hrule') v hv
    have hww : w' = w := hw'.take_eq.symm.trans hpass.take_eq
    rw [hww] at hfree
    rw [hkept, List.nil_append] at heq
    have hmem : ∀ c ∈ w, c = r.quote := by
      intro c hc
      have hc' : c ∈ [r.quote] := heq ▸ List.mem_append_right x (List.mem_append_left y hc)
      exact List.mem_singleton.1 hc'
    obtain ⟨c, hc⟩ := List.exists_mem_of_ne_nil w hne
    exact hfree r.quote hquote (hmem c hc ▸ hc)

end Rewrite

end SecretScan

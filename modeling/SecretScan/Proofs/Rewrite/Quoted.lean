import SecretScan.Proofs.Catalog.Secret
import SecretScan.Proofs.Rewrite.Unresolved

/-!
# The literal around a quoted secret

A rule finds secrets line by line, and its literals are found in the text as a whole by
another pattern. The two agree where a secret stands between two equal quotes (`Quoted`):
what the rule read, the pattern reads between the quotes (`Quoted.reads`), so at the place
of the literal the pattern matches, and what it matches is that literal and nothing longer
or shorter (`Quoted.matchAt?`).
-/

namespace SecretScan

namespace Rewrite

open Pattern Secrets Text

/-- The secret of a finding stands directly between two equal quotes. The rule for keys
matches these quotes itself, together with what stands before them. -/
structure Quoted (s : List Char) (r : Replaced) : Prop where
  quote : IsQuote r.quote
  stands : r.literal <+: s.drop r.start
  secret : r.body = r.finding.value.toList
  place : (r.finding.rule = "API Key (Generic)" ∧ StandsAt s r.finding r.start r.literal) ∨
    (r.finding.rule ≠ "API Key (Generic)" ∧ r.kept = [] ∧
      StandsAt s r.finding (r.start + 1) r.body)

/-! ## What literals are made of -/

theorem literal_injective {before body before' body' : Pattern}
    (h : literal before body = literal before' body') : before = before' ∧ body = body' := by
  simp only [literal, ofList, Pattern.seq.injEq, Pattern.group.injEq, true_and, and_true] at h
  exact h

/-- The parts of a pattern for literals have no groups and read no quotes. -/
theorem literals_quoteless {rule : String} {before body : Pattern}
    (h : (rule, literal before body) ∈ literals) :
    (before.isBare = true ∧ body.isBare = true) ∧
      before.shuns false quotes = true ∧ body.shuns false quotes = true := by
  simp only [literals, List.mem_cons, Prod.mk.injEq, List.not_mem_nil, or_false] at h
  rcases h with ⟨-, h⟩ | ⟨-, h⟩ | ⟨-, h⟩ | ⟨-, h⟩ <;>
    obtain ⟨rfl, rfl⟩ := literal_injective h <;> decide +kernel

theorem reads_many_noneOf {x : List Char} (hx : ∀ c ∈ quotes, c ∉ x) (least : Nat)
    (hlen : least ≤ x.length) : Reads (atLeast least (.noneOf "\"'")) x := by
  refine .run (fun c hc => ?_) hlen (by simp)
  have hc' : c ∉ quotes := fun hmem => hx c hmem hc
  simpa [CharTest.noneOf, CharTest.holds, Member.holds, quotes] using hc'

theorem reads_many_noBlank {x : List Char} (hx : ∀ c ∈ quotes ++ blankList, c ∉ x) (least : Nat)
    (hlen : least ≤ x.length) : Reads (atLeast least (.noBlankNor "\"'")) x := by
  refine .run (fun c hc => ?_) hlen (by simp)
  have hquote : c ∉ quotes := fun hmem => hx c (List.mem_append_left _ hmem) hc
  have hblank : Text.isBlank c = false := by
    refine Bool.eq_false_iff.2 fun hblank => ?_
    exact hx c (List.mem_append_right _ (mem_blankList hblank)) hc
  simpa [CharTest.noBlankNor, CharTest.holds, Member.holds, CharClass.holds, hblank, quotes]
    using hquote

/-! ## What the rules read, the literals read -/

theorem databaseBody_of_match {line : List Char} {m : Match} (hm : MatchIn databasePattern line m) :
    Reads (ofList [wordOf ["mongodb", "mysql", "postgres", "postgresql", "redis"],
      textAnyCase "://", many (.noneOf "\"'")]) m.text := by
  obtain ⟨scheme, w, hw, hscheme, h⟩ := reads_seq (hm.reads (by decide))
  obtain ⟨sep, rest, rfl, hsep, hrest⟩ := reads_seq h
  rw [hw]
  refine .seq hscheme (.seq hsep (reads_many_noneOf ?_ 0 (Nat.zero_le _)))
  exact hrest.shuns (show (atLeast 1 (.noBlankNor "\"'")).shuns false quotes = true by decide)

theorem jwtBody_of_match {line : List Char} {m : Match} (hm : MatchIn jwtPattern line m) :
    Reads (ofList [text "eyJ", many (.noneOf "\"'")]) m.text := by
  obtain ⟨front, rest, hw, hfront, hrest⟩ := reads_seq (hm.reads (by decide))
  rw [hw]
  refine .seq hfront (reads_many_noneOf ?_ 0 (Nat.zero_le _))
  exact hrest.shuns (show (ofList [many webTokenChar, text ".eyJ", many webTokenChar, text ".",
    many webTokenChar]).shuns false quotes = true by decide)

/-- The edges of words around an address take no part in what it reads. -/
theorem emailBody_of_match {line : List Char} {m : Match} (hm : MatchIn emailPattern line m) :
    Reads (ofList [many (.noBlankNor "\"'"), text "@", atLeast 1 (.noBlankNor "\"'")]) m.text := by
  let domain : List Pattern :=
    [atLeast 1 (.within .exact [('A', 'Z'), ('a', 'z'), ('0', '9')] ".-"), text ".",
      atLeast 2 (.within .exact [('A', 'Z'), ('a', 'z')] "")]
  let address : List Pattern :=
    [atLeast 1 (.within .exact [('A', 'Z'), ('a', 'z'), ('0', '9')] "._%+-"), text "@"] ++ domain
  obtain ⟨v, hv, hw⟩ := ways_ofList_cons hm.way
  rw [ways_anchor hv] at hw
  obtain ⟨u, hu, hw⟩ := @ways_ofList_append address [wordEdge] _ _ _ hw
  have hend := congrArg Prod.fst (ways_anchor hw)
  obtain ⟨x, hx, hread⟩ := reads_of_way (by decide) u hu
  rw [show u.1 = _ from hend.symm] at hx
  have htext : m.text = x := List.append_cancel_right hx.after
  rw [htext]
  obtain ⟨name, w, rfl, hname, h⟩ := reads_seq hread
  obtain ⟨sign, host, rfl, hsign, hhost⟩ := reads_seq h
  have hlen : 1 ≤ host.length := by
    obtain ⟨first, rest, rfl, hfirst, -⟩ := reads_seq hhost
    have hlen := (reads_run hfirst).2.1
    rw [List.length_append]
    omega
  refine .seq (reads_many_noBlank ?_ 0 (Nat.zero_le _)) (.seq hsign (reads_many_noBlank ?_ 1 hlen))
  · exact hname.shuns (show (atLeast 1 (.within .exact [('A', 'Z'), ('a', 'z'), ('0', '9')]
      "._%+-")).shuns false (quotes ++ blankList) = true by rw [blankList_eq]; decide)
  · exact hhost.shuns (show (ofList domain).shuns false (quotes ++ blankList) = true by
      rw [blankList_eq]
      decide)

/-- What the pattern for the literals of a rule has to read, if the rule matched a secret
between quotes. -/
theorem Quoted.reads {path : String} {s : List Char} {r : Replaced} {pattern : Pattern}
    (h : Quoted s r) (hpattern : (r.finding.rule, pattern) ∈ literals)
    (hfound : r.finding ∈ secretsIn path s) :
    ∃ before body, pattern = literal before body ∧ Reads before r.kept ∧ Reads body r.body := by
  have hpatterns : ∀ rule ∈ rules,
      (rule.name = "API Key (Generic)" → rule.pattern = apiKeyPattern) ∧
      (rule.name = "Database URL" → rule.pattern = databasePattern) ∧
      (rule.name = "JWT Token" → rule.pattern = jwtPattern) ∧
      (rule.name = emailRule → rule.pattern = emailPattern) := by
    decide +kernel
  obtain ⟨k, line, hline, rule, hrule, m, hm, hreported, hf⟩ := mem_secretsIn.1 hfound
  have hname : r.finding.rule = rule.name := by rw [hf]; rfl
  have hkey : r.finding.key = String.ofList m.text := by
    rw [hf]
    exact Scan.key_ruleFinding hreported _ _ _
  have hin := allIn_matchIn hm
  -- without a name in front, what is matched is the body
  have hplain : r.finding.rule ≠ "API Key (Generic)" → r.kept = [] ∧ r.body = m.text := by
    intro hne
    obtain ⟨-, hkept, hstands⟩ := h.place.resolve_left fun hapi => hne hapi.1
    exact ⟨hkept, String.ofList_injective (hstands.key.symm.trans hkey)⟩
  simp only [literals, List.mem_cons, Prod.mk.injEq, List.not_mem_nil, or_false] at hpattern
  rcases hpattern with ⟨hr, rfl⟩ | ⟨hr, rfl⟩ | ⟨hr, rfl⟩ | ⟨hr, rfl⟩
  · rw [(hpatterns rule hrule).1 (hname ▸ hr)] at hin
    obtain ⟨-, hstands⟩ := h.place.resolve_right fun hother => hother.1 hr
    obtain ⟨name, rest, value, q, q', htext⟩ := apiKey_text (hin.reads (by decide))
    have hvalue : ∀ c ∈ quotes, c ∉ value := fun c hc =>
      htext.value_not_mem c (List.mem_append_right _ hc)
    have hsecret : r.body = value := by
      rw [h.secret, hf, value_ruleFinding hrule hm hreported, String.toList_ofList, htext.text]
      exact secretIn_quoted (mem_quotes htext.quote) (mem_quotes htext.quote') hvalue
    have hkept : r.kept = name ++ rest := by
      have hliteral := String.ofList_injective (hstands.key.symm.trans hkey)
      rw [htext.text, Replaced.literal, hsecret] at hliteral
      exact (List.append_inj' hliteral (by simp)).1
    refine ⟨_, _, rfl, ?_, ?_⟩
    · rw [hkept]
      exact .seq htext.name_read htext.rest_read
    · rw [hsecret]
      exact reads_many_noneOf hvalue 1 (by have := (reads_run htext.value_read).2.1; omega)
  · rw [(hpatterns rule hrule).2.1 (hname ▸ hr)] at hin
    obtain ⟨hkept, hbody⟩ := hplain (by rw [hr]; decide)
    exact ⟨_, _, rfl, hkept ▸ .empty, hbody ▸ databaseBody_of_match hin⟩
  · rw [(hpatterns rule hrule).2.2.1 (hname ▸ hr)] at hin
    obtain ⟨hkept, hbody⟩ := hplain (by rw [hr]; decide)
    exact ⟨_, _, rfl, hkept ▸ .empty, hbody ▸ jwtBody_of_match hin⟩
  · rw [(hpatterns rule hrule).2.2.2 (hname ▸ hr)] at hin
    obtain ⟨hkept, hbody⟩ := hplain (by rw [hr]; decide)
    exact ⟨_, _, rfl, hkept ▸ .empty, hbody ▸ emailBody_of_match hin⟩

/-! ## The match at the place of a literal -/

/-- Where a literal stands whose parts are read without quotes, it is matched. -/
theorem literal_matchAt? {before body : Pattern}
    (hbare : before.isBare = true ∧ body.isBare = true) (hbefore : before.shuns false quotes = true)
    (hbody : body.shuns false quotes = true) {x y : List Char} {q : Char} (hx : Reads before x)
    (hq : IsQuote q) (hy : Reads body y) (u v : List Char) :
    ∃ m, (literal before body).matchAt? false ⟨u.reverse, x ++ q :: (y ++ q :: v), u.length⟩ = some m ∧
      LiteralParts m x q y := by
  let c : Cursor := ⟨u.reverse, x ++ q :: (y ++ q :: v), u.length⟩
  have hpass : c.Passes (x ++ q :: (y ++ [q]))
      ⟨(x ++ q :: (y ++ [q])).reverse ++ c.before, v, c.pos + (x ++ q :: (y ++ [q])).length⟩ :=
    ⟨by simp [c], rfl, rfl⟩
  have hway := mem_ways_literal hbare.1 hbare.2 hx hq hy hpass
  obtain ⟨w, hw⟩ : ∃ w, (ways (literal before body) c []).head? = some w := by
    cases hways : ways (literal before body) c [] with
    | nil => rw [hways] at hway; cases hway
    | cons w ws => exact ⟨w, rfl⟩
  have hmatch : (literal before body).matchAt? false c = some (matchOf c w) := by
    rw [matchAt?_false, hw]
    rfl
  obtain ⟨hin, -, -⟩ := @matchAt?_matchIn _ _ u.reverse _ _
    (by rw [List.length_reverse]; exact hmatch)
  obtain ⟨x', q', y', hparts, hlit⟩ := literal_parts hbare.1 hbare.2 hin
  have hx' : ∀ c ∈ quotes, c ∉ x' := by
    obtain ⟨d, m', hpassx, hd⟩ := hlit.before_way
    obtain ⟨z, hz, hfree⟩ := shuns_passes hbefore _ hd
    have heq : z = x' := hz.take_eq.symm.trans hpassx.take_eq
    exact heq ▸ hfree
  have hy' : ∀ c ∈ quotes, c ∉ y' := by
    obtain ⟨d, e, m', -, hpassy, he⟩ := hlit.body_way
    obtain ⟨z, hz, hfree⟩ := shuns_passes hbody _ he
    have heq : z = y' := hz.take_eq.symm.trans hpassy.take_eq
    exact heq ▸ hfree
  -- both texts are cut at their first quotes, and these are the same
  have hafter : x' ++ q' :: (y' ++ q' :: (matchOf c w).rest) = x ++ q :: (y ++ q :: v) := by
    have htext := List.append_cancel_left (hin.text_eq :
      u.reverse.reverse ++ c.after = u.reverse.reverse ++ ((matchOf c w).text ++ (matchOf c w).rest))
    rw [hparts.text] at htext
    simpa using htext.symm
  have hq' := mem_quotes hparts.quote
  obtain ⟨rfl, rfl, hrest⟩ := cut_unique hx' (hx.shuns hbefore) hq' (mem_quotes hq) hafter
  obtain ⟨rfl, -, -⟩ := cut_unique hy' (hy.shuns hbody) hq' hq' hrest
  exact ⟨_, hmatch, hparts⟩

end Rewrite

end SecretScan

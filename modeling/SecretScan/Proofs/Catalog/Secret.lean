import SecretScan.Proofs.Catalog.ApiKey
import SecretScan.Proofs.Pattern.Captures
import SecretScan.Proofs.Scan.Secrets

/-!
# The secret in a match

Four rules for secrets match more than the secret. Three of them end in a quoted value, and
the secret is what stands between the last two quotes. The fourth one announces a token, and
the secret is what stands behind the last blank. All other rules match the secret itself,
without quotes in it, and only the first line of a private key has blanks; that one is
written in capitals, whereas every announcement has an `e`.

So the text of a match shows which secret it holds, whatever rule found it: `secretIn` reads
it off, and `value_ruleFinding` says that it is the value of the finding.
-/

namespace SecretScan

namespace Secrets

open Pattern

/-- The secret in a match: what its last two quotes enclose, or what stands behind its last
blank where a token is announced, or else all of it. -/
def secretIn (w : List Char) : List Char :=
  match w.reverse with
  | [] => []
  | c :: before =>
    if quotes.contains c then (before.takeWhile fun d => !quotes.contains d).reverse
    else if w.any Text.isBlank && w.contains 'e' then
      ((c :: before).takeWhile fun d => !Text.isBlank d).reverse
    else w

theorem takeWhile_reverse_append {p : Char → Bool} {y : List Char} {c : Char}
    (hy : ∀ d ∈ y, p d = true) (hc : p c = false) (x : List Char) :
    ((y.reverse ++ c :: x).takeWhile p).reverse = y := by
  rw [List.takeWhile_append_of_pos (fun d hd => hy d (List.mem_reverse.1 hd)),
    List.takeWhile_cons_of_neg (by simp [hc]), List.append_nil, List.reverse_reverse]

theorem secretIn_quoted {x y : List Char} {q q' : Char} (hq : q ∈ quotes) (hq' : q' ∈ quotes)
    (hy : ∀ c ∈ quotes, c ∉ y) : secretIn (x ++ q :: (y ++ [q'])) = y := by
  have hreverse : (x ++ q :: (y ++ [q'])).reverse = q' :: (y.reverse ++ q :: x.reverse) := by simp
  rw [secretIn, hreverse]
  simp only [List.contains_iff_mem.2 hq', if_true]
  refine takeWhile_reverse_append ?_ (by simp [hq]) x.reverse
  intro d hd
  have hd : d ∉ quotes := fun hmem => hy d hmem hd
  simpa using hd

theorem secretIn_announced {x y : List Char} {b : Char} (he : 'e' ∈ x) (hb : Text.isBlank b = true)
    (hne : y ≠ []) (hy : ∀ c ∈ y, Text.isBlank c = false) (hquote : ∀ c ∈ quotes, c ∉ y) :
    secretIn (x ++ b :: y) = y := by
  obtain ⟨y', c, rfl⟩ := List.eq_nil_or_concat' y |>.resolve_left hne
  have hreverse : (x ++ b :: (y' ++ [c])).reverse = c :: (y'.reverse ++ b :: x.reverse) := by simp
  have hc : quotes.contains c = false := by
    have hc : c ∉ quotes := fun hmem => hquote c hmem (by simp)
    simpa using hc
  have hblank : (x ++ b :: (y' ++ [c])).any Text.isBlank = true := by simp [hb]
  have hletter : (x ++ b :: (y' ++ [c])).contains 'e' = true := by simp [he]
  rw [secretIn, hreverse]
  simp only [hc, hblank, hletter, Bool.false_eq_true, if_false, Bool.and_self, if_true]
  have hall : ∀ d ∈ y' ++ [c], (!Text.isBlank d) = true := fun d hd => by rw [hy d hd]; rfl
  have h := takeWhile_reverse_append hall (c := b) (by rw [hb]; rfl) x.reverse
  simpa using h

theorem secretIn_whole {w : List Char} (hquote : ∀ c ∈ quotes, c ∉ w)
    (h : (∀ c ∈ w, Text.isBlank c = false) ∨ 'e' ∉ w) : secretIn w = w := by
  have hannounced : (w.any Text.isBlank && w.contains 'e') = false := by
    rcases h with h | h
    · have hnone : w.any Text.isBlank = false := List.any_eq_false.2 fun c hc => by simp [h c hc]
      rw [hnone, Bool.false_and]
    · have hnone : w.contains 'e' = false := by simpa using h
      rw [hnone, Bool.and_false]
  rw [secretIn, hannounced]
  cases hw : w.reverse with
  | nil => exact (List.reverse_eq_nil_iff.1 hw).symm
  | cons c before =>
      have hc : c ∈ w := List.mem_reverse.1 (hw ▸ List.mem_cons_self)
      have hc : quotes.contains c = false := by
        have hc : c ∉ quotes := fun hmem => hquote c hmem hc
        simpa using hc
      simp only [hc, Bool.false_eq_true, if_false]

/-! ## The rules -/

/-- A rule that ends in a quoted value captures what the last two quotes enclose. -/
theorem quoted_captures (front : List Pattern) {body : Pattern}
    (hparts : isCapturing (front ++ [quote]) body [quote] = true)
    (hbody : body.shuns false quotes = true) {s : List Char} {m : Match}
    (hm : MatchIn (ofList (front ++ [quote] ++ group 1 body :: [quote])) s m) :
    Reads body (secretIn m.text) ∧ m.group? 1 = some (secretIn m.text) := by
  have hquote : ∀ {z : List Char}, Reads quote z → ∃ q, z = [q] ∧ q ∈ quotes := by
    intro z hz
    obtain ⟨q, rfl, hq⟩ := reads_one hz
    rw [holds_within_singles] at hq
    exact ⟨q, rfl, by simpa [quotes] using hq⟩
  obtain ⟨x, y, z, htext, hx, hy, hz, hgroup⟩ := hm.captures hparts
  obtain ⟨x, opening, rfl, -, hopening⟩ := reads_ofList_append hx
  obtain ⟨q, rfl, hq⟩ := hquote hopening
  obtain ⟨q', rfl, hq'⟩ := hquote hz
  have hsecret : secretIn m.text = y := by
    rw [htext, List.append_assoc, List.singleton_append]
    exact secretIn_quoted hq hq' (hy.shuns hbody)
  rw [hsecret]
  exact ⟨hy, hgroup⟩

/-- The rule that announces a token captures what stands behind the last blank. -/
theorem bearer_captures {s : List Char} {m : Match} (hm : MatchIn bearerPattern s m) :
    secretIn m.text ≠ [] ∧ m.group? 1 = some (secretIn m.text) := by
  have hparts : isCapturing [charOf "Bb", text "earer", someBlanks]
      (atLeast 1 (.alphanumericOr .exact "_-.=")) [] = true := by decide
  obtain ⟨x, y, z, htext, hx, hy, hz, hgroup⟩ := hm.captures hparts
  obtain ⟨first, x, rfl, -, hx⟩ := reads_seq hx
  obtain ⟨letters, blanks, rfl, hletters, hblanks⟩ := reads_seq hx
  obtain ⟨hblank, hlen, -⟩ := reads_run hblanks
  have hne : blanks ≠ [] := by
    rintro rfl
    simp at hlen
  obtain ⟨before, b, rfl⟩ := List.eq_nil_or_concat' blanks |>.resolve_left hne
  have hb : Text.isBlank b = true := by
    simpa [CharTest.holds, Member.holds, CharClass.holds] using hblank b (by simp)
  have hfree := hy.shuns (show (atLeast 1 (.alphanumericOr .exact "_-.=")).shuns false
    (quotes ++ blankList) = true by rw [blankList_eq]; decide)
  have hy' : y ≠ [] := by
    rintro rfl
    have hlen := (reads_run hy).2.1
    simp at hlen
  have hsecret : secretIn m.text = y := by
    cases hz
    rw [htext, reads_text hletters, List.append_nil,
      show first ++ ("earer".toList ++ (before ++ [b])) ++ y =
        first ++ ("earer".toList ++ before) ++ b :: y by simp]
    refine secretIn_announced ?_ hb hy' ?_ fun c hc => hfree c (List.mem_append_left _ hc)
    · simp
    · intro c hc
      refine Bool.eq_false_iff.2 fun hblank => ?_
      exact hfree c (List.mem_append_right _ (mem_blankList hblank)) hc
  rw [hsecret]
  exact ⟨hy', hgroup⟩

/-- A rule without a group matches the secret itself. -/
theorem secretIn_of_whole {rule : Rule} (hrule : rule ∈ rules) (hgroup : rule.secretGroup = none)
    {s : List Char} {m : Match} (hm : MatchIn rule.pattern s m) : secretIn m.text = m.text := by
  have hshuns : ∀ rule ∈ rules, rule.secretGroup = none →
      rule.pattern.shuns true quotes = true ∧ (rule.pattern.shuns true blankList = true ∨
        rule.pattern.shuns true ['e'] = true) := by
    rw [blankList_eq]
    decide +kernel
  obtain ⟨hquotes, hother⟩ := hshuns rule hrule hgroup
  refine secretIn_whole (hm.shuns hquotes) (hother.imp (fun h c hc => ?_) fun h => ?_)
  · exact Bool.eq_false_iff.2 fun hblank => hm.shuns h c (mem_blankList hblank) hc
  · exact hm.shuns h 'e' (List.mem_singleton_self _)

/-- A rule with a group captures the secret, which is not empty. -/
theorem group?_of_captured {rule : Rule} (hrule : rule ∈ rules) (hgroup : rule.secretGroup ≠ none)
    {s : List Char} {m : Match} (hm : MatchIn rule.pattern s m) :
    secretIn m.text ≠ [] ∧ rule.secretGroup.bind m.group? = some (secretIn m.text) := by
  have hrules : ∀ rule ∈ rules, rule.secretGroup ≠ none → rule.secretGroup = some 1 ∧
      rule.pattern ∈ [apiKeyPattern, awsSecretPattern, passwordPattern, bearerPattern] := by
    decide
  have hne : ∀ {n : Nat} {most : Option Nat} {test : CharTest} {y : List Char}, 0 < n →
      Reads (times .greedy n most (one test)) y → y ≠ [] := by
    rintro n most test y hn hy rfl
    have hlen := (reads_run hy).2.1
    rw [List.length_nil] at hlen
    omega
  obtain ⟨hone, hpattern⟩ := hrules rule hrule hgroup
  rw [hone, Option.bind_some]
  simp only [List.mem_cons, List.not_mem_nil, or_false] at hpattern
  rcases hpattern with hpattern | hpattern | hpattern | hpattern <;> rw [hpattern] at hm
  · obtain ⟨hread, hcaptured⟩ := quoted_captures [apiKeyName, blanks, charOf ":=", blanks]
      (by decide) (by decide) hm
    exact ⟨hne (by decide) hread, hcaptured⟩
  · obtain ⟨hread, hcaptured⟩ := quoted_captures [optional quote, textAnyCase "aws",
      optional (charOf "_-"), textAnyCase "secret", optional (charOf "_-"), textAnyCase "key",
      optional quote, blanks, charOf ":=", blanks] (by decide) (by decide) hm
    exact ⟨hne (by decide) hread, hcaptured⟩
  · obtain ⟨hread, hcaptured⟩ := quoted_captures [wordOf ["password", "passwd", "pwd"], blanks,
      charOf ":=", blanks] (by decide) (by decide) hm
    exact ⟨hne (by decide) hread, hcaptured⟩
  · exact bearer_captures hm

/-- What a rule for secrets finds is told by where it matches and what it matches there. -/
def findingAt (file : String) (number : Nat) (rule : Rule) (spot : Nat × List Char) : Finding :=
  let matched := String.ofList spot.2
  { file, line := number, column := spot.1 + 1, shown := Finding.clip Finding.shownLimit matched
    rule := rule.name, severity := rule.severity, message := rule.message, fix := rule.fix
    category := rule.category, matched, secret := String.ofList (secretIn spot.2) }

theorem ruleFinding_eq {rule : Rule} (hrule : rule ∈ rules) {line : List Char} {m : Match}
    (hm : m ∈ rule.pattern.allIn line) (file : String) (number : Nat) :
    Scan.ruleFinding file number rule m = findingAt file number rule (m.start, m.text) := by
  have hin := allIn_matchIn hm
  rw [Scan.ruleFinding, findingAt]
  by_cases hgroup : rule.secretGroup = none
  · rw [secretIn_of_whole hrule hgroup hin, hgroup]
    rfl
  · obtain ⟨hne, hcaptured⟩ := group?_of_captured hrule hgroup hin
    rw [hcaptured]
    cases h : secretIn m.text with
    | nil => exact absurd h hne
    | cons c rest => rfl

/-- The value of a finding is the secret that the text of its match shows. -/
theorem value_ruleFinding {rule : Rule} (hrule : rule ∈ rules) {line : List Char} {m : Match}
    (hm : m ∈ rule.pattern.allIn line) {suppress : Bool}
    (hreported : Scan.isReported suppress m = true) (file : String) (number : Nat) :
    (Scan.ruleFinding file number rule m).value = String.ofList (secretIn m.text) := by
  have hsecret : (Scan.ruleFinding file number rule m).secret = String.ofList (secretIn m.text) := by
    rw [ruleFinding_eq hrule hm, findingAt]
  rw [Finding.value, hsecret]
  split
  · next hempty =>
      -- only a rule without a group can have an empty secret, and it matches the secret itself
      have hnil : secretIn m.text = [] := by
        rw [← String.toList_ofList (l := secretIn m.text), hempty]
        rfl
      have hin := allIn_matchIn hm
      have hgroup : rule.secretGroup = none := by
        by_contra hgroup
        exact (group?_of_captured hrule hgroup hin).1 hnil
      rw [Scan.key_ruleFinding hreported, secretIn_of_whole hrule hgroup hin]
  · rfl

end Secrets

end SecretScan

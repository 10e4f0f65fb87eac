import Mathlib.Data.List.Nodup
import SecretScan.Proofs.Rewrite.Literal
import SecretScan.Proofs.Rewrite.Pass
import SecretScan.Proofs.Rewrite.Splice
import SecretScan.Proofs.Text.LineStart

/-!
# A rewritten text differs only in owned literals

The literals are settled one after another, rule by rule, and every settlement looks at
all earlier ones. The invariant of that loop pairs each settlement with the literal that
it replaces (`Settles`) and keeps the literals apart. One step adds at most one literal
that nothing overlaps; the two loops only repeat the step.

Two literals that are apart cannot both enclose the span of one finding, since a key is
not empty. So the replaced literals and the findings that are reported as resolved
correspond one to one, whatever the order of the rules did.
-/

namespace SecretScan.Rewrite

open Pattern Text

/-- The literal encloses the span at which the finding was reported. -/
def Encloses (s : List Char) (r : Replaced) : Prop :=
  ∃ line lineStart : Nat, r.finding.line = line + 1 ∧ LineStart s line lineStart ∧
    (r.start : Int) ≤ lineStart + r.finding.column - 1 ∧
    lineStart + r.finding.column - 1 + r.finding.key.length ≤ (r.stop : Int)

/-- The body of the literal is the secret of the finding, or for a mail address ends
in the secret behind a colon. -/
def Holds (r : Replaced) : Prop :=
  r.body = r.finding.value.toList ∨
    (r.finding.rule = emailRule ∧ (':' :: r.finding.value.toList) <:+ r.body)

/-- The literal was found in the text by the pattern of the finding's rule. -/
def Found (s : List Char) (r : Replaced) : Prop :=
  ∃ pattern m, (r.finding.rule, pattern) ∈ literals ∧ m ∈ pattern.allIn s ∧
    m.start = r.start ∧ LiteralParts m r.kept r.quote r.body

/-- What has to hold of a literal that is replaced. -/
structure Justified (mapping : Env.Mapping) (s : List Char) (findings : List (Nat × Finding))
    (r : Replaced) : Prop where
  given : (r.index, r.finding) ∈ findings
  named : mapping.name? r.finding = some r.variableName
  found : Found s r
  encloses : Encloses s r
  holds : Holds r

theorem literals_unique {rule : String} {pattern pattern' : Pattern}
    (h : (rule, pattern) ∈ literals) (h' : (rule, pattern') ∈ literals) : pattern = pattern' := by
  have hnames : (literals.map (·.1)).Nodup := by decide
  exact congrArg Prod.snd (List.inj_on_of_nodup_map hnames h h' rfl)

/-! ## Claims -/

theorem claim?_eq_some {starts : List Nat} {mapping : Env.Mapping} {index : Nat} {f : Finding}
    {c : Claim} (h : claim? starts mapping index f = some c) :
    ∃ (name : String) (line lineStart : Nat), mapping.name? f = some name ∧ f.line = (line : Int) + 1 ∧
      starts[line]? = some lineStart ∧
      c = ⟨index, f, name, lineStart + f.column - 1, lineStart + f.column - 1 + f.key.length⟩ := by
  unfold claim? at h
  split at h
  · cases h
  · split at h
    · next name line hname hline =>
        split at h
        · next lineStart hstart =>
            refine ⟨name, line, lineStart, hname, hline, hstart, ?_⟩
            exact (Option.some.inj h).symm
        · cases h
    · cases h

theorem mem_claims {mapping : Env.Mapping} {s : List Char} {findings : List (Nat × Finding)}
    {c : Claim} (h : c ∈ claims mapping s findings) :
    (c.index, c.finding) ∈ findings ∧
      claim? (lineStarts 0 (lines s)) mapping c.index c.finding = some c := by
  obtain ⟨⟨index, f⟩, hmem, hc⟩ := List.mem_filterMap.1 h
  obtain ⟨name, line, lineStart, -, -, -, rfl⟩ := claim?_eq_some hc
  exact ⟨hmem, hc⟩

/-! ## Settlements -/

/-- A settlement of a claim replaces a literal. -/
structure Settles (file : FilePath) (s : List Char) (cs : List Claim) (t : Settlement)
    (r : Replaced) : Prop where
  claim : t.claim ∈ cs
  index : r.index = t.claim.index
  finding : r.finding = t.claim.finding
  variableName : r.variableName = t.claim.variableName
  edit : t.edit = r.edit file
  found : Found s r
  start : (r.start : Int) ≤ t.claim.start
  stop : t.claim.stop ≤ (r.stop : Int)
  holds : Holds r

/-- The settlements up to a point, each with the literal that it replaces. -/
def Settled (file : FilePath) (s : List Char) (cs : List Claim) (done : List Settlement) : Prop :=
  ∃ l : List (Settlement × Replaced), l.map (·.1) = done ∧
    (∀ x ∈ l, Settles file s cs x.1 x.2) ∧ (l.map (·.2)).Pairwise Apart

theorem bodyHolds_iff {rule : String} {body secret : List Char} :
    bodyHolds rule body secret = true ↔
      body = secret ∨ (rule = emailRule ∧ (':' :: secret) <:+ body) := by
  simp [bodyHolds]

theorem replacement_eq {file : FilePath} {name : String} {m : Match} {x y : List Char} {q : Char}
    (h : LiteralParts m x q y) (start index : Nat) (f : Finding) :
    replacement file name m = (⟨start, x, q, y, index, f, name⟩ : Replaced).successor file := by
  simp [replacement, Replaced.successor, h.before, h.opening]

/-- One step: a literal that is settled joins those before it. -/
theorem settle?_settles {file : FilePath} {s : List Char} {cs : List Claim} {rule : String}
    {pattern : Pattern} (hrule : (rule, pattern) ∈ literals)
    {own : List Claim} (hown : ∀ c ∈ own, c ∈ cs ∧ c.finding.rule = rule)
    {done : List Settlement} {m : Match} (hm : m ∈ pattern.allIn s) {t : Settlement}
    (h : settle? file rule own done m = some t) :
    (∃ r, Settles file s cs t r) ∧
      ∀ d ∈ done, d.edit.overlaps t.edit.start t.edit.stop = false := by
  unfold settle? at h
  split at h
  · cases h
  · next hfree =>
      obtain ⟨c, hc, rfl⟩ := Option.map_eq_some_iff.1 h
      obtain ⟨hcs, hcr⟩ := hown c (List.mem_of_find?_eq_some hc)
      have howns := List.find?_some hc
      simp only [owns, Bool.and_eq_true, decide_eq_true_eq] at howns
      obtain ⟨⟨hstart, hstop⟩, hbody⟩ := howns
      obtain ⟨before, body, rfl, hbefore, hbare⟩ := literals_shape hrule
      obtain ⟨x, q, y, hparts, -⟩ := literal_parts hbefore hbare (allIn_matchIn hm)
      have hlen : m.start + (x ++ q :: (y ++ [q])).length = m.stop := by
        rw [← hparts.text, Match.stop]
      refine ⟨⟨⟨m.start, x, q, y, c.index, c.finding, c.variableName⟩, ?_⟩, ?_⟩
      · refine ⟨hcs, rfl, rfl, rfl, ?_, ?_, hstart, ?_, ?_⟩
        · rw [replacement_eq hparts m.start c.index c.finding]
          exact congrArg (Edit.mk m.start · _) hlen.symm
        · exact ⟨_, m, hcr ▸ hrule, hm, rfl, hparts⟩
        · exact hlen ▸ hstop
        · rw [hparts.body, Option.getD_some, bodyHolds_iff, ← hcr] at hbody
          exact hbody
      · intro d hd
        have hnone : ∀ d ∈ done, ¬ d.edit.overlaps m.start m.stop = true := by
          simpa using hfree
        exact Bool.eq_false_iff.2 (hnone d hd)

theorem overlaps_eq_false {file : FilePath} {a r : Replaced}
    (h : (a.edit file).overlaps (r.edit file).start (r.edit file).stop = false) : Apart a r := by
  simp only [Edit.overlaps, Replaced.edit, Bool.and_eq_false_iff] at h
  rcases h with h | h
  · exact .inl (Nat.le_of_not_lt (of_decide_eq_false h))
  · exact .inr (Nat.le_of_not_lt (of_decide_eq_false h))

theorem settled_step {file : FilePath} {s : List Char} {cs own : List Claim} {rule : String}
    {pattern : Pattern} (hrule : (rule, pattern) ∈ literals)
    (hown : ∀ c ∈ own, c ∈ cs ∧ c.finding.rule = rule) {done : List Settlement}
    (h : Settled file s cs done) {m : Match} (hm : m ∈ pattern.allIn s) :
    Settled file s cs (done ++ (settle? file rule own done m).toList) := by
  cases hset : settle? file rule own done m with
  | none => simpa using h
  | some t =>
      obtain ⟨⟨r, hr⟩, hfree⟩ := settle?_settles hrule hown hm hset
      obtain ⟨l, rfl, hl, hapart⟩ := h
      refine ⟨l ++ [(t, r)], by simp, ?_, ?_⟩
      · intro x hx
        rcases List.mem_append.1 hx with hx | hx
        · exact hl x hx
        · rw [List.mem_singleton.1 hx]
          exact hr
      · rw [List.map_append, List.pairwise_append]
        refine ⟨hapart, List.pairwise_singleton _ _, ?_⟩
        intro a ha b hb
        obtain ⟨x, hx, rfl⟩ := List.mem_map.1 ha
        obtain rfl : b = r := by simpa using hb
        have hfree := hfree x.1 (List.mem_map_of_mem hx)
        rw [(hl x hx).edit, hr.edit] at hfree
        exact overlaps_eq_false hfree

/-- The literals of one rule. -/
theorem settled_settleAll {file : FilePath} {s : List Char} {cs own : List Claim}
    {rule : String} {pattern : Pattern} (hrule : (rule, pattern) ∈ literals)
    (hown : ∀ c ∈ own, c ∈ cs ∧ c.finding.rule = rule) :
    ∀ {ms : List Match} {done : List Settlement}, (∀ m ∈ ms, m ∈ pattern.allIn s) →
      Settled file s cs done → Settled file s cs (settleAll file rule own done ms) := by
  intro ms
  induction ms with
  | nil => intro done _ h; exact h
  | cons m ms ih =>
      intro done hms h
      rw [settleAll]
      refine ih (fun n hn => hms n (List.mem_cons_of_mem m hn)) ?_
      exact settled_step hrule hown h (hms m List.mem_cons_self)

/-- All rules, one after another. -/
theorem settled_settlements {file : FilePath} {s : List Char} {cs : List Claim} :
    ∀ {table : List (String × Pattern)} {done : List Settlement}, (∀ x ∈ table, x ∈ literals) →
      Settled file s cs done → Settled file s cs (settlements file cs s done table) := by
  intro table
  induction table with
  | nil => intro done _ h; exact h
  | cons x table ih =>
      intro done htable h
      obtain ⟨rule, pattern⟩ := x
      rw [settlements]
      refine ih (fun y hy => htable y (List.mem_cons_of_mem _ hy)) ?_
      split
      · exact h
      · refine settled_settleAll (htable _ List.mem_cons_self) ?_ (fun m hm => hm) h
        intro c hc
        obtain ⟨hc, hrule⟩ := List.mem_filter.1 hc
        exact ⟨hc, by simpa using hrule⟩

/-! ## From settlements to literals -/

theorem Found.literal_prefix {s : List Char} {r : Replaced} (h : Found s r) :
    r.literal <+: s.drop r.start := by
  obtain ⟨pattern, m, -, hm, hstart, hparts⟩ := h
  have hin := allIn_matchIn hm
  refine ⟨m.rest, ?_⟩
  rw [hin.text_eq, ← hstart, hin.start_eq, ← List.length_reverse, List.drop_left, hparts.text]
  rfl

theorem Settles.justified {mapping : Env.Mapping} {file : FilePath} {s : List Char}
    {findings : List (Nat × Finding)} {t : Settlement} {r : Replaced}
    (h : Settles file s (claims mapping s findings) t r) : Justified mapping s findings r := by
  obtain ⟨hgiven, hclaim⟩ := mem_claims h.claim
  obtain ⟨name, line, lineStart, hname, hline, hstart, heq⟩ := claim?_eq_some hclaim
  obtain ⟨n, rfl, hlineStart⟩ := lineStart_of_getElem? hstart
  have hvariable : t.claim.variableName = name := congrArg Claim.variableName heq
  have hs := h.start
  have ht := h.stop
  rw [heq] at hs ht
  refine ⟨?_, ?_, h.found, ⟨line, n, ?_, hlineStart, ?_, ?_⟩, h.holds⟩
  · rw [h.index, h.finding]
    exact hgiven
  · rw [h.finding, h.variableName, hvariable]
    exact hname
  · rw [h.finding]
    exact hline
  · rw [h.finding]
    simpa using hs
  · rw [h.finding]
    simpa using ht

/-- A text that was rewritten differs in literals that gave way to references, and these are
the literals that were settled. -/
theorem literalsIn_settles (mapping : Env.Mapping) (file : FilePath) (s : List Char)
    (findings : List (Nat × Finding)) :
    ∃ rs : List Replaced, Replaces file 0 rs s (literalsIn mapping file s findings).text ∧
      (rs.map (·.index)).Perm (literalsIn mapping file s findings).resolved ∧
      rs.Pairwise Apart ∧
      (∀ r ∈ rs, ∃ t ∈ settlements file (claims mapping s findings) s [] literals,
        Settles file s (claims mapping s findings) t r) ∧
      ∀ t ∈ settlements file (claims mapping s findings) s [] literals,
        ∃ r ∈ rs, Settles file s (claims mapping s findings) t r := by
  have hnone : Settled file s (claims mapping s findings) [] :=
    ⟨[], rfl, by simp, List.Pairwise.nil⟩
  obtain ⟨l, hdone, hl, hapart⟩ := settled_settlements (fun x hx => hx) hnone
  have hl' : ∀ r ∈ l.map (·.2), ∃ t ∈ settlements file (claims mapping s findings) s [] literals,
      Settles file s (claims mapping s findings) t r := by
    intro r hr
    obtain ⟨x, hx, rfl⟩ := List.mem_map.1 hr
    exact ⟨x.1, hdone ▸ List.mem_map_of_mem hx, hl x hx⟩
  have hfound : ∀ r ∈ l.map (·.2), r.literal <+: s.drop r.start := by
    intro r hr
    obtain ⟨t, -, ht⟩ := hl' r hr
    exact ht.found.literal_prefix
  obtain ⟨rs, hperm, hreplaces⟩ := applyAll_replaces file hfound hapart
  have hedits : (l.map (·.2)).map (·.edit file) = (l.map (·.1)).map (·.edit) := by
    rw [List.map_map, List.map_map]
    exact List.map_congr_left fun x hx => (hl x hx).edit.symm
  have hresolved : (l.map (·.2)).map (·.index) = (l.map (·.1)).map (·.claim.index) := by
    rw [List.map_map, List.map_map]
    exact List.map_congr_left fun x hx => (hl x hx).index
  have hperm' := hperm.map (·.index)
  rw [hresolved, hdone] at hperm'
  rw [hedits, hdone] at hreplaces
  refine ⟨rs, hreplaces, hperm', (hperm.pairwise_iff (fun h => Or.symm h)).2 hapart, ?_, ?_⟩
  · exact fun r hr => hl' r (hperm.mem_iff.1 hr)
  · intro t ht
    obtain ⟨x, hx, rfl⟩ := List.mem_map.1 (hdone ▸ ht)
    exact ⟨x.2, hperm.mem_iff.2 (List.mem_map_of_mem hx), hl x hx⟩

/-- Each of the literals that gave way had to be replaced. -/
theorem literalsIn_justified (mapping : Env.Mapping) (file : FilePath) (s : List Char)
    (findings : List (Nat × Finding)) :
    ∃ rs : List Replaced, Replaces file 0 rs s (literalsIn mapping file s findings).text ∧
      (rs.map (·.index)).Perm (literalsIn mapping file s findings).resolved ∧
      rs.Pairwise Apart ∧ ∀ r ∈ rs, Justified mapping s findings r := by
  obtain ⟨rs, hreplaces, hperm, hapart, hrs, -⟩ := literalsIn_settles mapping file s findings
  refine ⟨rs, hreplaces, hperm, hapart, ?_⟩
  intro r hr
  obtain ⟨t, -, ht⟩ := hrs r hr
  exact ht.justified

/-- Literals that are apart belong to different findings: the span of a finding with a
key has a character, and only one of them encloses it. -/
theorem index_ne_of_apart {mapping : Env.Mapping} {s : List Char}
    {findings : List (Nat × Finding)} (hnumbers : (findings.map (·.1)).Nodup)
    (hkeys : ∀ f ∈ findings, f.2.key ≠ "") {a b : Replaced}
    (ha : Justified mapping s findings a) (hb : Justified mapping s findings b)
    (h : Apart a b) : a.index ≠ b.index := by
  intro hindex
  have hfinding : a.finding = b.finding :=
    congrArg Prod.snd (List.inj_on_of_nodup_map hnumbers ha.given hb.given hindex)
  have hlen : 0 < a.finding.key.length := by
    rw [Nat.pos_iff_ne_zero, Ne, String.length_eq_zero_iff]
    exact hkeys _ ha.given
  obtain ⟨j, p, hj, hp, hpstart, hpstop⟩ := ha.encloses
  obtain ⟨k, q, hk, hq, hqstart, hqstop⟩ := hb.encloses
  rw [← hfinding] at hk hqstart hqstop
  obtain rfl : j = k := by omega
  obtain rfl := hp.unique hq
  rcases h with h | h <;> omega

/-- The text that comes out differs from the text that went in by literals that gave way
to references. These literals do not overlap, each of them belongs to one finding, and
the findings that are reported as resolved are theirs. -/
theorem literalsIn_replaces (mapping : Env.Mapping) (file : FilePath) (s : List Char)
    {findings : List (Nat × Finding)} (hnumbers : (findings.map (·.1)).Nodup)
    (hkeys : ∀ f ∈ findings, f.2.key ≠ "") :
    ∃ rs : List Replaced, Replaces file 0 rs s (literalsIn mapping file s findings).text ∧
      (rs.map (·.index)).Nodup ∧
      (rs.map (·.index)).Perm (literalsIn mapping file s findings).resolved ∧
      ∀ r ∈ rs, Justified mapping s findings r := by
  obtain ⟨rs, hreplaces, hperm, hapart, hrs⟩ := literalsIn_justified mapping file s findings
  refine ⟨rs, hreplaces, ?_, hperm, hrs⟩
  refine List.pairwise_map.2 (hapart.imp_of_mem ?_)
  intro a b ha hb h
  exact index_ne_of_apart hnumbers hkeys (hrs a ha) (hrs b hb) h

/-- A mail address behind a scheme, and an address of a database that holds a mail
address: the two literals are replaced, and the inner address stays unresolved. -/
theorem literalsIn_replaces_two :
    let s := "\"mailto:a@b.co\" \"redis://c@d.ee\"".toList
    let findings := Remediation.numbered (secretsIn "a.js" s)
    (findings.map (·.1)).Nodup ∧ (∀ f ∈ findings, f.2.key ≠ "") ∧
      ∃ rs : List Replaced, Replaces (FilePath.ofString "a.js") 0 rs s
          "process.env.CONTACT_EMAIL process.env.DATABASE_URL".toList ∧
        (rs.map (·.index)).Nodup ∧ (rs.map (·.index)).Perm [2, 0] ∧
        ∀ r ∈ rs, Justified (variablesFor "a.js" s) s findings r := by
  intro s findings
  have hnumbers : (findings.map (·.1)).Nodup := Remediation.numbered_nodup _
  have hkeys : ∀ f ∈ findings, f.2.key ≠ "" := by decide +kernel
  have h := literalsIn_replaces (variablesFor "a.js" s) (FilePath.ofString "a.js") s hnumbers hkeys
  have hresult : (literalsIn (variablesFor "a.js" s) (FilePath.ofString "a.js") s findings).text =
        "process.env.CONTACT_EMAIL process.env.DATABASE_URL".toList ∧
      (literalsIn (variablesFor "a.js" s) (FilePath.ofString "a.js") s findings).resolved =
        [2, 0] := by
    decide +kernel
  rw [hresult.1, hresult.2] at h
  exact ⟨hnumbers, hkeys, h⟩

end SecretScan.Rewrite

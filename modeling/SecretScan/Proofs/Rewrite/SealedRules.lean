import SecretScan.Proofs.Catalog.ApiKey
import SecretScan.Proofs.Rewrite.Seam

/-!
# Rules that a seam is sealed off from

In a file of data the quotes of a literal stay, and between them there is only a variable in
braces. A rule that shuns quotes sees nothing of it, as soon as it needs a character that no
variable has.

In a code file the quotes go. What is before the reference and what is behind it then stand
right beside it, and only two rules are sure not to notice: the one for identifiers of
access keys, since no name of a variable has an `A` in front of a `K`, and the one for
private keys, since a reference has no dash.
-/

namespace SecretScan

namespace Rewrite

open Pattern Secrets Env

/-! ## References -/

/-- The variable in braces that takes the place of a body. -/
def braced (name : String) : List Char := '$' :: '\x7b' :: (name.toList ++ ['\x7d'])

theorem reference_object {file : FilePath} (h : objectSuffixes.contains file.kind = true)
    (name : String) : reference name file = ⟨"process.env." ++ name, true⟩ := by
  rw [reference, if_pos h]

theorem reference_lookup {file : FilePath} (h : file.kind = lookupSuffix) (name : String) :
    reference name file = ⟨"os.environ[\"" ++ name ++ "\"]", true⟩ := by
  rw [reference, h, if_neg (by decide), if_pos rfl]

theorem reference_other {file : FilePath} (h : objectSuffixes.contains file.kind = false)
    (h' : file.kind ≠ lookupSuffix) (name : String) :
    reference name file = ⟨"$\x7b" ++ name ++ "\x7d", false⟩ := by
  rw [reference, if_neg (by simpa using h), if_neg h']

theorem seam_object {file : FilePath} (h : objectSuffixes.contains file.kind = true)
    (r : Replaced) :
    r.seam file = 'p' :: ("rocess.env.".toList ++ r.variableName.toList) := by
  rw [Replaced.seam, reference_object h]
  simp

theorem seam_lookup {file : FilePath} (h : file.kind = lookupSuffix) (r : Replaced) :
    r.seam file = 'o' :: ("s.environ[\"".toList ++ r.variableName.toList ++ "\"]".toList) := by
  rw [Replaced.seam, reference_lookup h]
  simp

theorem seam_other {file : FilePath} (h : objectSuffixes.contains file.kind = false)
    (h' : file.kind ≠ lookupSuffix) (r : Replaced) :
    r.seam file = r.quote :: (braced r.variableName ++ [r.quote]) := by
  rw [Replaced.seam, reference_other h h']
  simp [braced]

/-! ## Stretches in which nothing begins -/

theorem isCalm_suffix {x y : List Char} (h : isCalm y = true) (hx : x <:+ y) :
    isCalm x = true := by
  induction y with
  | nil => rw [List.suffix_nil.1 hx]; rfl
  | cons c y ih =>
      rcases List.suffix_cons_iff.1 hx with rfl | hx
      · exact h
      · refine ih ?_ hx
        cases y with
        | nil => rfl
        | cons d y =>
            rw [isCalm, Bool.and_eq_true] at h
            exact h.2

/-- A pattern that begins with letters matches nowhere else than at these letters. -/
theorem matchAt?_letters {letters : List Char} {p : Pattern} {c : Cursor} {m : Match}
    (h : (seq (ofList ((letters.map (CharTest.exactly .exact)).map one)) p).matchAt? false c =
      some m) : letters <+: c.after := by
  have hflat : ∀ tests : List CharTest, (ofList (tests.map one)).isFlat = true := by
    intro tests
    induction tests with
    | nil => rfl
    | cons t tests ih =>
        cases tests with
        | nil => rfl
        | cons t' tests => exact ih
  rw [matchAt?_false] at h
  obtain ⟨w, hw, -⟩ := Option.map_eq_some_iff.1 h
  obtain ⟨v, hv, -⟩ := List.mem_flatMap.1 (by rw [ways] at hw; exact List.mem_of_head? hw)
  obtain ⟨x, hx, hread⟩ := reads_of_way (hflat _) v hv
  have hread := reads_ofList_one hread
  rw [List.forall₂_map_left_iff] at hread
  have heq : letters = x := by
    refine List.forall₂_eq_eq_eq ▸ hread.imp fun c d hcd => ?_
    have hdc : d = c := by simpa [CharTest.holds, CharTest.same, Folding.hasCase] using hcd
    exact hdc.symm
  rw [heq, hx.after]
  exact List.prefix_append x _

theorem barren_awsKeyId {y : List Char} (h : isCalm y = true) : Barren awsKeyIdPattern y := by
  intro c y' hsuffix before z pos
  cases hm : awsKeyIdPattern.matchAt? false ⟨before, c :: (y' ++ z), pos⟩ with
  | none => rfl
  | some m =>
      obtain ⟨tail, htail⟩ := @matchAt?_letters ['A', 'K', 'I', 'A'] _ _ m hm
      obtain ⟨rfl, hrest⟩ := List.cons.inj htail
      have hcalm := isCalm_suffix h hsuffix
      cases y' with
      | nil => cases hcalm
      | cons d y' =>
          have hd : 'K' = d := (List.cons.inj hrest).1
          rw [← hd] at hcalm
          cases hcalm

theorem barren_privateKey {y : List Char} (h : '-' ∉ y) : Barren privateKeyPattern y := by
  intro c y' hsuffix before z pos
  cases hm : privateKeyPattern.matchAt? false ⟨before, c :: (y' ++ z), pos⟩ with
  | none => rfl
  | some m =>
      obtain ⟨tail, htail⟩ := @matchAt?_letters "-----BEGIN ".toList _ _ m hm
      obtain ⟨rfl, -⟩ := List.cons.inj htail
      exact absurd (hsuffix.subset List.mem_cons_self) h

/-! ## Sealed rules -/

/-- The texts that stand in a seam before a name and behind it. -/
def seamFronts : List (List Char) := ["rocess.env.".toList, "s.environ[\"".toList, ['$', '\x7b']]

/-- The texts that stand in a seam behind a name. -/
def seamBacks : List (List Char) := [[], "\"]".toList, ['\x7d', '"'], ['\x7d', '\'']]

/-- The characters with which a line ends. -/
def lineEnds : List Char := [10, 11, 12, 13, 0x1C, 0x1D, 0x1E, 0x85, 0x2028, 0x2029].map Char.ofNat

/-- Characters that stand at the edge of what rewriting puts in. -/
def edgeChars : List Char := "\"'poi".toList ++ lineEnds

/-- Every seam is sealed off, if nothing begins in it but for its first character. -/
theorem seam_sealed {p : Pattern} (hp : p.shuns false edgeChars = true) (heats : p.eats = true)
    (file : FilePath) {r : Replaced} (hquote : IsQuote r.quote)
    (hbarren : ∀ x ∈ seamFronts, ∀ z ∈ seamBacks, Barren p (x ++ (r.variableName.toList ++ z)))
    (hbreak : '\n' ∉ r.variableName.toList) : Sealed p (r.seam file) := by
  have hseal : ∀ h ∈ edgeChars, ∀ x ∈ seamFronts, ∀ z ∈ seamBacks,
      Sealed p (h :: (x ++ (r.variableName.toList ++ z))) := by
    intro h hh x hx z hz
    refine sealed_of_barren hp heats hh (hbarren x hx z hz) ?_
    have hx' : ∀ x ∈ seamFronts, '\n' ∉ x := by decide
    have hz' : ∀ z ∈ seamBacks, '\n' ∉ z := by decide
    simp [hx' x hx, hz' z hz, hbreak]
  cases hobject : objectSuffixes.contains file.kind with
  | true =>
      rw [seam_object hobject]
      have h := hseal 'p' (by decide) "rocess.env.".toList (by decide) [] (by decide)
      rwa [List.append_nil] at h
  | false =>
      by_cases hlookup : file.kind = lookupSuffix
      · rw [seam_lookup hlookup, List.append_assoc]
        exact hseal 'o' (by decide) _ (by decide) _ (by decide)
      · rw [seam_other hobject hlookup, braced]
        rcases hquote with hq | hq <;> rw [hq]
        · simpa using hseal '"' (by decide) ['$', '\x7b'] (by decide) ['\x7d', '"'] (by decide)
        · simpa using hseal '\'' (by decide) ['$', '\x7b'] (by decide) ['\x7d', '\''] (by decide)

theorem name_no_break {name : String} (h : IsName name) : '\n' ∉ name.toList := by
  intro hmem
  exact absurd (h.chars.1 _ hmem) (by decide)

theorem awsKeyId_sealed (file : FilePath) {r : Replaced} (hquote : IsQuote r.quote)
    (hname : IsName r.variableName) : Sealed awsKeyIdPattern (r.seam file) := by
  refine seam_sealed (by decide +kernel) (by decide) file hquote ?_ (name_no_break hname)
  intro x hx z hz
  have hx' : ∀ x ∈ seamFronts, isCalm x = true := by decide
  have hz' : ∀ z ∈ seamBacks, isCalm z = true := by decide
  exact barren_awsKeyId (isCalm_append (hx' x hx) (isCalm_append hname.chars.2 (hz' z hz)))

theorem privateKey_sealed (file : FilePath) {r : Replaced} (hquote : IsQuote r.quote)
    (hname : IsName r.variableName) : Sealed privateKeyPattern (r.seam file) := by
  refine seam_sealed (by decide +kernel) (by decide) file hquote ?_ (name_no_break hname)
  intro x hx z hz
  have hx' : ∀ x ∈ seamFronts, '-' ∉ x := by decide
  have hz' : ∀ z ∈ seamBacks, '-' ∉ z := by decide
  have hdash : '-' ∉ r.variableName.toList := by
    intro hmem
    exact absurd (hname.chars.1 _ hmem) (by decide)
  exact barren_privateKey (by simp [hx' x hx, hz' z hz, hdash])

/-- The characters of a variable in braces. -/
def bracedAlphabet : List Char := '$' :: '\x7b' :: '\x7d' :: nameAlphabet

/-- Between quotes that stay, a rule sees nothing if it needs a character that no variable in
braces has. -/
theorem quoted_sealed {p : Pattern} {edges : Bool} (hp : p.shuns edges quotes = true)
    (heats : p.eats = true) (hneeds : p.needs bracedAlphabet = true) {file : FilePath}
    (h : objectSuffixes.contains file.kind = false) (h' : file.kind ≠ lookupSuffix) {r : Replaced}
    (hquote : IsQuote r.quote) (hname : IsName r.variableName) : Sealed p (r.seam file) := by
  have hword : Text.isWord r.quote = false := by
    rcases hquote with hq | hq <;> rw [hq] <;> decide
  rw [seam_other h h']
  refine sealed_of_needs hp heats hneeds (mem_quotes hquote) (fun _ => hword) ?_
  intro c hc
  simp only [braced, List.mem_cons, List.mem_append, List.not_mem_nil, or_false] at hc
  simp only [bracedAlphabet, List.mem_cons]
  rcases hc with hc | hc | hc | hc
  · exact Or.inl hc
  · exact Or.inr (Or.inl hc)
  · exact Or.inr (Or.inr (Or.inr (hname.chars.1 c hc)))
  · exact Or.inr (Or.inr (Or.inl hc))

end Rewrite

end SecretScan

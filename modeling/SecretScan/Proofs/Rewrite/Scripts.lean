import SecretScan.Proofs.Rewrite.SealedRules
import SecretScan.Proofs.Rewrite.Unresolved
import SecretScan.Proofs.Script.Import
import SecretScan.Proofs.Script.References

/-!
# A rewritten script is a script

The literals of a script are found by their quotes, and a reference has quotes of its own. Where
each literal that gives way is a text of the script that stands alone, and there is room for an
import, what comes out is a script again (`pass_keeps_script`). Where a literal stands inside of a text,
it may be none (`pass_breaks_text`).
-/

namespace SecretScan.Rewrite

open Pattern
open Script (IsPlain ReadsLike StandsAlone referenceText)

/-- A text with its literals replaced, before anything is imported. -/
def replacedIn (path : String) (s : List Char) : Rewritten :=
  literalsIn (variablesFor path s) (FilePath.ofString path) s
    (Remediation.numbered (secretsIn path s))

/-- The literal gave way to a reference. -/
structure GaveWay (path : String) (s : List Char) (r : Replaced) : Prop
    extends Justified (variablesFor path s) s (Remediation.numbered (secretsIn path s)) r where
  edited : r.edit (FilePath.ofString path) ∈ (replacedIn path s).edits

theorem edits_literalsIn (mapping : Env.Mapping) (file : FilePath) (s : List Char)
    (findings : List (Nat × Finding)) : (literalsIn mapping file s findings).edits =
      (settlements file (claims mapping s findings) s [] literals).map (·.edit) := rfl

theorem replacedIn_gaveWay (path : String) (s : List Char) :
    ∃ rs : List Replaced, Replaces (FilePath.ofString path) 0 rs s (replacedIn path s).text ∧
      ∀ r ∈ rs, GaveWay path s r := by
  obtain ⟨rs, hreplaces, -, -, hrs, -⟩ := literalsIn_settles (variablesFor path s)
    (FilePath.ofString path) s (Remediation.numbered (secretsIn path s))
  rw [← replacedIn] at hreplaces
  refine ⟨rs, hreplaces, fun r hr => ?_⟩
  obtain ⟨t, ht, hsettles⟩ := hrs r hr
  refine ⟨hsettles.justified, ?_⟩
  rw [replacedIn, edits_literalsIn, ← hsettles.edit]
  exact List.mem_map_of_mem ht

section

variable {file : FilePath} {pos : Nat} {rs : List Replaced} {s t : List Char}

/-- A character that is in no seam is not new. -/
theorem Replaces.notMem {c : Char} (h : Replaces file pos rs s t) (hs : c ∉ s)
    (hrs : ∀ r ∈ rs, c ∉ r.seam file) : c ∉ t := by
  induction h with
  | rest pos s => exact hs
  | next gap _ _ ih =>
      obtain ⟨hr, hrs⟩ := List.forall_mem_cons.1 hrs
      simp only [Replaced.literal, List.mem_append, List.mem_cons, not_or] at hs
      rw [Replaced.successor_eq]
      simp only [List.mem_append, not_or]
      exact ⟨hs.1, ⟨hs.2.1.1, hr⟩, ih hs.2.2 hrs⟩

theorem isPlain_name {name : String} (h : Env.IsName name) :
    IsPlain name.toList ∧ '\x00' ∉ name.toList := by
  have hall : ∀ c ∈ Env.nameAlphabet, c ∉ ['"', '\\', '\n', '\r'] :=
    List.all_iff_forall_prop.1 (by decide)
  refine ⟨fun c hc => hall c (h.chars.1 c hc), fun hnull => ?_⟩
  exact absurd (h.chars.1 _ hnull) (by decide)

theorem seam_referenceText (hfile : file.kind = lookupSuffix) (r : Replaced) :
    r.seam file = referenceText r.variableName.toList := by
  rw [seam_lookup hfile, List.append_assoc]
  rfl

/-- The text in which literals gave way reads like the script, if each of them is a text that
stands alone. -/
theorem Replaces.readsLike (hfile : file.kind = lookupSuffix) (h : Replaces file pos rs s t)
    {x : List Char} (hpos : x.length = pos)
    (halone : ∀ r ∈ rs, StandsAlone ((x ++ s).take (r.start + r.kept.length)) r.quote r.body
      ((x ++ s).drop r.stop))
    (hrs : ∀ r ∈ rs, IsQuote r.quote ∧ Env.IsName r.variableName) : ReadsLike (x ++ s) s t := by
  induction h generalizing x with
  | rest pos s => exact ReadsLike.refl _ _
  | @next pos r rs s t gap hstart _ ih =>
      obtain ⟨hr, halone⟩ := List.forall_mem_cons.1 halone
      obtain ⟨⟨hquote, hname⟩, hrs⟩ := List.forall_mem_cons.1 hrs
      have hbehind : x ++ (gap ++ (r.literal ++ s)) = (x ++ gap ++ r.literal) ++ s := by simp
      have hscript : x ++ (gap ++ (r.literal ++ s)) =
          (x ++ gap ++ r.kept) ++ r.quote :: (r.body ++ r.quote :: s) := by
        simp [Replaced.literal]
      have hopening : (x ++ gap ++ r.kept).length = r.start + r.kept.length := by
        rw [List.length_append, List.length_append, hpos, hstart]
      have hstop : (x ++ gap ++ r.literal).length = r.stop := by
        rw [List.length_append, List.length_append, hpos, Replaced.stop, hstart]
      rw [← hopening, ← hstop, hscript, List.take_left, ← hscript, hbehind, List.drop_left] at hr
      have hmore : ReadsLike ((x ++ gap ++ r.literal) ++ s) s t :=
        ih hstop (hbehind ▸ halone) hrs
      rw [← hbehind, hscript] at hmore
      have hfront : gap ++ r.kept <:+ x ++ gap ++ r.kept := ⟨x, by simp⟩
      have hswap : ReadsLike _ (gap ++ r.kept ++ r.quote :: (r.body ++ r.quote :: s))
          (gap ++ r.kept ++ (referenceText r.variableName.toList ++ t)) :=
        hmore.swap hr hquote hfront (isPlain_name hname).1
      rw [hscript, Replaced.successor_eq, seam_referenceText hfile]
      simpa [Replaced.literal] using hswap

end

section

variable {path : String} {s : List Char} {statements : List Script.Statement}

/-- A script in which literals gave way is a script, if each of them is a text that stands
alone. -/
theorem read?_replacedIn (hpath : (FilePath.ofString path).kind = lookupSuffix)
    (hread : Script.read? s = some statements)
    (halone : ∀ r, GaveWay path s r →
      StandsAlone (s.take (r.start + r.kept.length)) r.quote r.body (s.drop r.stop)) :
    ∃ statements', Script.read? (replacedIn path s).text = some statements' := by
  obtain ⟨rs, hreplaces, hrs⟩ := replacedIn_gaveWay path s
  have hnames : ∀ r ∈ rs, IsQuote r.quote ∧ Env.IsName r.variableName := fun r hr =>
    ⟨(hrs r hr).found.isQuote, (Env.Mapping.ofFindings_named _).of_name? (hrs r hr).named⟩
  have hlike := hreplaces.readsLike hpath (x := []) rfl (fun r hr => halone r (hrs r hr)) hnames
  refine hlike.read? hread (hreplaces.notMem (Script.read?_eq_some.1 hread).1 fun r hr hnull => ?_)
  rw [seam_referenceText hpath] at hnull
  exact Script.notMem_referenceText (by decide) (isPlain_name (hnames r hr).2).2 hnull

/-- A script stays one, if each literal that gives way is a text that stands alone, and if there
is room for an import where one is missing. -/
theorem pass_keeps_script (hpath : (FilePath.ofString path).kind = lookupSuffix)
    (hread : Script.read? s = some statements)
    (halone : ∀ r, GaveWay path s r →
      StandsAlone (s.take (r.start + r.kept.length)) r.quote r.body (s.drop r.stop))
    (hroom : ∀ statements', Script.read? (replacedIn path s).text = some statements' →
      statements'.any (·.bindsVariables) = false →
      Script.HasRoom (replacedIn path s).text statements') :
    ∃ new statements', pass path s = .ok new ∧ Script.read? new.text = some statements' := by
  obtain ⟨statements', hread'⟩ := read?_replacedIn hpath hread halone
  obtain ⟨new, hnew⟩ := exists_source fun _ => (Script.read?_eq_some.1 hread').1
  rcases (source_shape hnew).2 with htext | ⟨-, hvariables⟩
  · exact ⟨new, statements', hnew, htext ▸ hread'⟩
  · have htext := Except.ok.inj
      ((Script.withVariables_of_read? hread').symm.trans hvariables)
    split at htext
    · exact ⟨new, statements', hnew, htext ▸ hread'⟩
    · next hbinds =>
        obtain ⟨statements'', hread'', -⟩ :=
          Script.read?_insertImport hread' (hroom _ hread' (by simpa using hbinds))
        exact ⟨new, statements'', hnew, htext ▸ hread''⟩

end

/-- A script with a mail address. -/
def mailScript : List Char := "x = 'a@b.co'\n".toList

theorem standsAlone_mailScript :
    StandsAlone "x = ".toList '\'' "a@b.co".toList "\n".toList := by
  have hfeeds : Script.withLineFeeds mailScript = mailScript ∧
      Script.withLineFeeds (mailScript.drop 4) = mailScript.drop 4 ∧
      Script.withLineFeeds ['\n'] = ['\n'] := by decide +kernel
  refine ⟨?_, [⟨.name "x", 1⟩, ⟨.sign "=", 1⟩], [⟨.newline, 1⟩], 1, [], ⟨?_, ?_, ?_⟩,
    ⟨?_, rfl, rfl⟩, by decide⟩
  · rintro c ⟨⟩
    exact ⟨by decide, by decide⟩
  · refine ⟨5, [{}], ?_⟩
    show Script.Steps 5 (.atLine (Script.withLineFeeds mailScript) 1) _
      ⟨_, _, ⟨Script.withLineFeeds (mailScript.drop 4), _, _⟩⟩
    rw [hfeeds.1, hfeeds.2.1]
    have hmargin : Script.Step (.atLine mailScript 1) [] ⟨false, [{}], ⟨mailScript, 1, []⟩⟩ :=
      .margin (p := ⟨mailScript, 1, []⟩) (q := ⟨mailScript, 1, []⟩) rfl rfl (by decide)
        (rfl : Script.Margin.settle {} [{}] = some ([], [{}]))
    have hname : Script.readToken ⟨mailScript, 1, []⟩ =
        some (.name "x", ⟨mailScript.drop 1, 1, []⟩) := rfl
    have hsign : Script.readToken ⟨mailScript.drop 2, 1, []⟩ =
        some (.sign "=", ⟨mailScript.drop 3, 1, []⟩) := rfl
    exact .more hmargin (.more (.token hname) (.more (.gap rfl (.inl rfl))
      (.more (.token hsign) (.one (.gap rfl (.inl rfl))))))
  · show Script.readToken ⟨Script.withLineFeeds (mailScript.drop 4), _, _⟩ =
      some (_, ⟨Script.withLineFeeds ['\n'], _, _⟩)
    rw [hfeeds.2.1, hfeeds.2.2]
    rfl
  · show Script.tokens? (Script.withLineFeeds mailScript) = _
    rw [hfeeds.1]
    decide +kernel
  · rintro t ⟨⟩
    rfl

theorem pass_keeps_script_mail :
    (FilePath.ofString "a.py").kind = lookupSuffix ∧
    (∃ statements, Script.read? mailScript = some statements) ∧
    (∀ r, GaveWay "a.py" mailScript r → StandsAlone (mailScript.take (r.start + r.kept.length))
      r.quote r.body (mailScript.drop r.stop)) ∧
    (∀ statements', Script.read? (replacedIn "a.py" mailScript).text = some statements' →
      statements'.any (·.bindsVariables) = false →
      Script.HasRoom (replacedIn "a.py" mailScript).text statements') ∧
    ∃ new statements', pass "a.py" mailScript = .ok new ∧
      Script.read? new.text = some statements' := by
  have hkind : (FilePath.ofString "a.py").kind = lookupSuffix := by decide +kernel
  obtain ⟨statements, hread⟩ : ∃ statements, Script.read? mailScript = some statements :=
    Option.isSome_iff_exists.1 (by decide +kernel)
  have hrules : ∀ f ∈ Remediation.numbered (secretsIn "a.py" mailScript), f.2.rule = emailRule := by
    decide +kernel
  have hmatches : ∀ m ∈ emailLiteral.allIn mailScript, m.start = 4 ∧
      m.group? prefixGroup = some [] ∧ m.group? quoteGroup = some ['\''] ∧
      m.group? bodyGroup = some "a@b.co".toList := by decide +kernel
  have halone : ∀ r, GaveWay "a.py" mailScript r →
      StandsAlone (mailScript.take (r.start + r.kept.length)) r.quote r.body
        (mailScript.drop r.stop) := by
    intro r hr
    obtain ⟨pattern, m, hpattern, hm, hstart, hparts⟩ := hr.found
    have hrule : r.finding.rule = emailRule := hrules _ hr.given
    rw [hrule] at hpattern
    obtain rfl : pattern = emailLiteral := literals_unique hpattern (by decide)
    obtain ⟨hpos, hbefore, hopening, hbody⟩ := hmatches m hm
    have hkept : r.kept = [] := Option.some.inj (hparts.before.symm.trans hbefore)
    have hquote : r.quote = '\'' := by simpa using hparts.opening.symm.trans hopening
    have hbody : r.body = "a@b.co".toList := Option.some.inj (hparts.body.symm.trans hbody)
    have hstop : r.stop = 12 := by
      rw [Replaced.stop, Replaced.literal, hkept, hquote, hbody, ← hstart, hpos]
      rfl
    rw [hstop, hquote, hbody, hkept, ← hstart, hpos]
    exact standsAlone_mailScript
  have hfront : (Script.read? (replacedIn "a.py" mailScript).text).map Script.leadingLines =
      some 0 ∧ Script.leadingComments (Text.linesWithEnds (replacedIn "a.py" mailScript).text) = 0 := by
    decide +kernel
  have hroom : ∀ statements', Script.read? (replacedIn "a.py" mailScript).text = some statements' →
      statements'.any (·.bindsVariables) = false →
      Script.HasRoom (replacedIn "a.py" mailScript).text statements' := by
    intro statements' hread' _
    rw [hread', Option.map_some, Option.some.injEq] at hfront
    refine ⟨⟨[], _, ⟨rfl, by simp⟩, ?_⟩, fun hleading => absurd hfront.1 hleading⟩
    rw [Script.importLine, if_pos hfront.1, hfront.2]
    rfl
  exact ⟨hkind, ⟨statements, hread⟩, halone, hroom, pass_keeps_script hkind hread halone hroom⟩

/-- A mail address between quotes inside of a text is taken for a literal, and what comes out is no
script. -/
theorem pass_breaks_text :
    let s := "x = \"'a@b.co'\"\n".toList
    (∃ statements, Script.read? s = some statements) ∧
      ∃ new, pass "a.py" s = .ok new ∧ Script.read? new.text = none := by
  refine ⟨Option.isSome_iff_exists.1 (by decide +kernel),
    ⟨"x = \"os.environ[\"CONTACT_EMAIL\"]\"\n".toList, [0]⟩, ?_, ?_⟩
  · decide +kernel
  · decide +kernel

end SecretScan.Rewrite

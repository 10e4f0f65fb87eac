import SecretScan.Proofs.Scan.Order
import SecretScan.Report.Render

/-!
# What reports do not show

A finding holds the text that was matched, a copy of it to show, and the secret in it. A mask
takes these three away and leaves the rest of the finding. The counts, the report for people and
the report for programs are the same with the mask as without it, so none of them tells results
apart that differ behind the mask only. A report for programs that shows matches on demand shows
the copies, and a scan makes each copy from the first characters of the key (`shown_of_content`):
no more of a key can be told from it than these (`reports_hide_matches`).
-/

namespace SecretScan

namespace Finding

/-- The finding without the text that was matched. -/
def masked (f : Finding) : Finding :=
  { f with shown := "", matched := "", secret := "" }

/-- As much of the key of a finding as may be shown. -/
def keyStart (f : Finding) : String :=
  clip shownLimit f.key

end Finding

namespace FileResult

/-- The result without the texts that were matched. -/
def masked (r : FileResult) : FileResult :=
  { r with findings := r.findings.map Finding.masked }

/-- Of every finding of a result, as much of its key as may be shown. -/
def keyStarts (r : FileResult) : List String :=
  r.findings.map Finding.keyStart

@[simp]
theorem flatten_masked (results : List FileResult) :
    flatten (results.map masked) = (flatten results).map Finding.masked := by
  rw [flatten, flatten, List.flatMap_map, List.map_flatMap]
  rfl

theorem hasErrors_masked (results : List FileResult) :
    hasErrors (results.map masked) = hasErrors results := by
  rw [hasErrors, flatten_masked, List.any_map]
  rfl

@[simp]
theorem stats_masked (results : List FileResult) :
    ScanStats.ofResults (results.map masked) = ScanStats.ofResults results := by
  simp only [ScanStats.ofResults, flatten_masked, List.length_map, List.countP_map]
  rfl

end FileResult

namespace Scan

/-- Whether a finding is one that a scan reports, whatever its catalog and its text. -/
def Reports (f : Finding) : Prop :=
  ∃ catalog filter file text, f ∈ content catalog filter file text

/-- The copy of a match that may be shown is the beginning of the key, for a rule as well as for
a content check. -/
theorem Reports.shown_eq {f : Finding} (h : Reports f) : f.shown = f.keyStart := by
  have hkey : ∀ {g : Finding}, g.shown = Finding.clip Finding.shownLimit g.matched →
      g.shown = g.keyStart := by
    intro g hg
    rw [Finding.keyStart, Finding.key]
    split
    · next hempty =>
        rw [hg, hempty]
        rfl
    · exact hg
  obtain ⟨catalog, filter, file, text, hf⟩ := h
  rcases List.mem_append.1 ((content_perm catalog filter file text).mem_iff.1 hf) with hf | hf
  · simp only [ofRules, ruleFindings, List.mem_flatMap, List.mem_map] at hf
    obtain ⟨_, -, _, -, _, -, rfl⟩ := hf
    exact hkey rfl
  · simp only [checkFindings, List.mem_flatMap, List.mem_map] at hf
    obtain ⟨_, -, _, -, rfl⟩ := hf
    exact hkey rfl

end Scan

namespace Report

open FileResult (masked keyStarts)

theorem resultRecord_masked (r : FileResult) :
    resultRecord true (masked r) = resultRecord true r := by
  rw [resultRecord, resultRecord, masked, List.map_map]
  rfl

theorem json_masked (results : List FileResult) :
    json true (results.map masked) = json true results := by
  rw [json, json, List.map_map]
  congr 2
  exact List.map_congr_left fun r _ => resultRecord_masked r

theorem resultLines_masked (r : FileResult) : resultLines (masked r) = resultLines r := by
  have hfindings : (r.findings.map Finding.masked).flatMap findingLines =
      r.findings.flatMap findingLines := by
    rw [List.flatMap_map]
    rfl
  have hproblem : (masked r).problem? = r.problem? := rfl
  simp only [resultLines, hproblem]
  rw [← hfindings]
  rfl

theorem markdown_masked (results : List FileResult) :
    markdown (results.map masked) = markdown results := by
  have hlines : (results.map masked).flatMap resultLines = results.flatMap resultLines := by
    rw [List.flatMap_map]
    exact List.flatMap_congr fun r _ => resultLines_masked r
  rw [markdown, markdown, FileResult.stats_masked, hlines, List.isEmpty_map]

/-- What two functions cannot tell apart in two lists, a third one cannot that depends on them. -/
theorem map_eq_of_maps {α β γ δ : Type} {f : α → β} {g : α → γ} {h : α → δ} {xs ys : List α}
    (hdepends : ∀ x ∈ xs, ∀ y ∈ ys, f x = f y → g x = g y → h x = h y)
    (hf : xs.map f = ys.map f) (hg : xs.map g = ys.map g) : xs.map h = ys.map h := by
  induction xs generalizing ys with
  | nil =>
      obtain rfl : ys = [] := by simpa using hf.symm
      rfl
  | cons x xs ih =>
      cases ys with
      | nil => cases hf
      | cons y ys =>
          rw [List.map_cons, List.map_cons, List.cons.injEq] at hf hg
          rw [List.map_cons, List.map_cons,
            hdepends x List.mem_cons_self y List.mem_cons_self hf.1 hg.1,
            ih (fun a ha b hb => hdepends a (List.mem_cons_of_mem x ha) b
              (List.mem_cons_of_mem y hb)) hf.2 hg.2]

/-- On demand the record of a finding of a scan shows the beginning of its key, and nothing else
of what the mask takes away. -/
theorem findingRecord_shown {f g : Finding} (hf : Scan.Reports f) (hg : Scan.Reports g)
    (hmasked : f.masked = g.masked) (hstart : f.keyStart = g.keyStart) :
    findingRecord false f = findingRecord false g := by
  have hrecord : ∀ {f : Finding}, Scan.Reports f →
      findingRecord false f = findingRecord false { f.masked with shown := f.keyStart } := by
    intro f hf
    rw [← hf.shown_eq]
    rfl
  rw [hrecord hf, hrecord hg, hmasked, hstart]

theorem json_shown {results results' : List FileResult}
    (hscanned : ∀ f ∈ FileResult.flatten results ++ FileResult.flatten results', Scan.Reports f)
    (hmasked : results.map masked = results'.map masked)
    (hstarts : results.map keyStarts = results'.map keyStarts) :
    json false results = json false results' := by
  have hrecords : results.map (resultRecord false) = results'.map (resultRecord false) := by
    refine map_eq_of_maps (fun r hr r' hr' hmasked hstarts => ?_) hmasked hstarts
    have hfindings : r.findings.map (findingRecord false) =
        r'.findings.map (findingRecord false) :=
      map_eq_of_maps
        (fun f hf g hg => findingRecord_shown
          (hscanned f (List.mem_append_left _ (List.mem_flatMap_of_mem hr hf)))
          (hscanned g (List.mem_append_right _ (List.mem_flatMap_of_mem hr' hg))))
        (congrArg FileResult.findings hmasked) hstarts
    have hfile : (masked r).file = (masked r').file := by rw [hmasked]
    have herror : (masked r).error = (masked r').error := by rw [hmasked]
    rw [resultRecord, resultRecord, hfindings, show r.file = r'.file from hfile,
      show r.error = r'.error from herror]
  rw [json, json, hrecords]

/-- Results that are the same but for what was matched have the same counts, the same report for
people and the same redacted report for programs. If their findings come from scans, then the
report that is not redacted is the same as well, as soon as their keys begin in the same way. -/
theorem reports_hide_matches {results results' : List FileResult}
    (hmasked : results.map masked = results'.map masked) :
    json true results = json true results' ∧
      markdown results = markdown results' ∧
      ScanStats.ofResults results = ScanStats.ofResults results' ∧
      FileResult.hasErrors results = FileResult.hasErrors results' ∧
      ((∀ f ∈ FileResult.flatten results ++ FileResult.flatten results', Scan.Reports f) →
        results.map keyStarts = results'.map keyStarts →
          json false results = json false results') := by
  refine ⟨?_, ?_, ?_, ?_, fun hscanned hstarts => json_shown hscanned hmasked hstarts⟩
  · rw [← json_masked results, hmasked, json_masked]
  · rw [← markdown_masked results, hmasked, markdown_masked]
  · rw [← FileResult.stats_masked results, hmasked, FileResult.stats_masked]
  · rw [← FileResult.hasErrors_masked results, hmasked, FileResult.hasErrors_masked]

/-- A check reports two texts that are the same for as long as may be shown. -/
theorem reports_hide_matches_long :
    let check : ContentCheck :=
      { name := "Text", description := "Text found", severity := .error, category := .logging
        locate := fun s => [⟨1, 1, String.ofList s⟩] }
    let catalog : Catalog := { name := "texts", rules := [], checks := [check] }
    let text := fun last => String.ofList (List.replicate Finding.shownLimit '7' ++ [last])
    let scan := fun last =>
      [FileResult.mk "a.js" (Scan.content catalog .all "a.js" (text last)) none]
    scan 'a' ≠ scan 'b' ∧ (scan 'a').map masked = (scan 'b').map masked ∧
      json true (scan 'a') = json true (scan 'b') ∧ json false (scan 'a') = json false (scan 'b') := by
  intro check catalog text scan
  let found : Char → Finding := fun last => Scan.checkFinding "a.js" check ⟨1, 1, text last⟩
  have hcontent : ∀ last ≠ '\n', Scan.content catalog .all "a.js" (text last) = [found last] := by
    intro last hlast
    have hlines : Text.lines (List.replicate Finding.shownLimit '7' ++ [last]) =
        [List.replicate Finding.shownLimit '7' ++ [last]] :=
      Text.splitAt_single (by simp [List.mem_replicate, hlast.symm])
    simp only [text, Scan.content, String.toList_ofList, hlines]
    rfl
  have ha := hcontent 'a' (by decide)
  have hb := hcontent 'b' (by decide)
  have hreports : Scan.Reports (found 'a') ∧ Scan.Reports (found 'b') :=
    ⟨⟨catalog, .all, "a.js", text 'a', by simp [ha]⟩, ⟨catalog, .all, "a.js", text 'b', by simp [hb]⟩⟩
  have hstart : (found 'a').keyStart = (found 'b').keyStart := by
    rw [← hreports.1.shown_eq, ← hreports.2.shown_eq]
    simp only [found, text, Scan.checkFinding, Finding.clip, String.toList_ofList,
      List.take_left' (List.length_replicate ..)]
  have hmasked : (scan 'a').map masked = (scan 'b').map masked := by
    simp only [scan, ha, hb, List.map_cons, List.map_nil, masked, Finding.masked, found,
      Scan.checkFinding]
  obtain ⟨hredacted, -, -, -, hshown⟩ := reports_hide_matches hmasked
  refine ⟨?_, hmasked, hredacted, hshown ?_ ?_⟩
  · simp only [scan, ha, hb]
    simp [found, text, Scan.checkFinding]
  · simp [scan, ha, hb, FileResult.flatten, hreports]
  · simp only [scan, ha, hb, List.map_cons, List.map_nil, keyStarts, hstart]

end Report

end SecretScan

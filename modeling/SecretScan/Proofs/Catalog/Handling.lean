import Mathlib.Data.List.Chain
import SecretScan.Catalog.Network
import SecretScan.Proofs.Catalog.ApiKey
import SecretScan.Proofs.Pattern.Order
import SecretScan.Proofs.Scan.Order

/-!
# Requests whose failure is handled

A script handles the failure of its requests if it tries them in a block, or hands the failure to a
call. What is looked for instead of such a block are three texts that stand one behind the other:
the opening of a block that is tried, a request, and the closing of a block whose failure is caught
(`handlesErrors_iff`). The braces are not matched, so the request may stand behind the block that is
tried and in front of another one. As long as every block whose failure is caught is one that is
tried, this is the only way to go wrong (`wraps_or_skips`).
-/

namespace SecretScan

namespace Network

open Pattern

open Text (lines)

/-! ## Blocks -/

/-- The opening of a block that is tried. -/
def tryOpening : Pattern := ofList [textAnyCase "try", blanks, text "\x7b"]

/-- The closing of a block whose failure is caught. -/
def catchClosing : Pattern := ofList [text "\x7d", blanks, textAnyCase "catch"]

/-- Every brace in a text has its partner in it. -/
inductive Balanced : List Char → Prop
  | nil : Balanced []
  | other {c : Char} {s : List Char} : c ≠ '\x7b' → c ≠ '\x7d' → Balanced s → Balanced (c :: s)
  | block {b s : List Char} : Balanced b → Balanced s → Balanced ('\x7b' :: (b ++ '\x7d' :: s))

theorem balanced_of_plain {s : List Char} (hopen : '\x7b' ∉ s) (hclose : '\x7d' ∉ s) :
    Balanced s := by
  induction s with
  | nil => exact .nil
  | cons c s ih =>
      rw [List.mem_cons, not_or] at hopen hclose
      exact .other (Ne.symm hopen.1) (Ne.symm hclose.1) (ih hopen.2 hclose.2)

/-- A block that is tried and whose failure is caught has a request in it. -/
def WrapsRequest (s : List Char) : Prop :=
  ∃ a o block e b, s = a ++ (o ++ (block ++ (e ++ b))) ∧ Reads tryOpening o ∧ Balanced block ∧
    Contains client block ∧ Reads catchClosing e

/-- Every block whose failure is caught is one that is tried. -/
def CatchesTried (s : List Char) : Prop :=
  ∀ a e b, s = a ++ (e ++ b) → Reads catchClosing e →
    ∃ a' o block, a = a' ++ (o ++ block) ∧ Reads tryOpening o ∧ Balanced block

/-- Behind the opening of a block that is tried, a request begins before another such block, whose
failure is caught. -/
def SkipsRequest (s : List Char) : Prop :=
  ∃ a o b v, s = a ++ (o ++ (b ++ v)) ∧ Reads tryOpening o ∧ (∃ w z, v = w ++ z ∧ Reads client w) ∧
    ∃ x o' block e z, v = x ++ (o' ++ (block ++ (e ++ z))) ∧ x ≠ [] ∧ Reads tryOpening o' ∧
      Balanced block ∧ Reads catchClosing e

/-! ## The pattern -/

theorem isGap_anything : IsGap anything := by
  refine ⟨_, rfl, fun a => ?_⟩
  simp only [CharTest.holds, List.any_cons, List.any_nil, Member.holds, Bool.or_false]
  cases CharClass.blank.holds .unicode a <;> rfl

/-- A request somewhere between a try and a catch is the three in their order. -/
theorem tryAroundRequest_occursIn {s : List Char} :
    tryAroundRequest.occursIn s = true ↔ InOrder [tryOpening, client, catchClosing] s :=
  @occursIn_chained anything isGap_anything [textAnyCase "try", blanks, text "\x7b"]
    [[client], [text "\x7d", blanks, textAnyCase "catch"]] (by decide) s

theorem handlesErrors_iff_inOrder {s : List Char} : handlesErrors s = true ↔
    Contains catchCall s ∨ InOrder [tryOpening, client, catchClosing] s := by
  rw [handlesErrors, Bool.or_eq_true, tryAroundRequest_occursIn,
    occursIn_iff_contains (by decide), or_comm]

/-! ## The opening and a request do not overlap -/

/-- A letter that is read in two forms, which have the same lower case. -/
def isPlain (d : Char) : Bool :=
  Folding.hasCase .unicode d && (Folding.siblings .unicode (Text.lower d)).isEmpty

theorem lower_of_exactly {c d : Char} (hplain : isPlain d = true)
    (h : (CharTest.exactly .unicode d).holds c = true) : Text.lower c = Text.lower d := by
  obtain ⟨hcase, hsiblings⟩ := Bool.and_eq_true_iff.1 hplain
  rw [List.isEmpty_iff] at hsiblings
  simpa [CharTest.holds, CharTest.same, Folding.lower, hcase, hsiblings] using h

/-- What is read by a word of plain letters is that word up to the case. -/
theorem lower_of_textAnyCase {word : String} (hplain : word.toList.all isPlain = true)
    {x : List Char} (h : Reads (textAnyCase word) x) :
    x.map Text.lower = word.toList.map Text.lower := by
  have hword : textAnyCase word = ofList ((word.toList.map (.exactly .unicode)).map one) := by
    rw [textAnyCase, List.map_map]
    rfl
  rw [hword] at h
  have hall := List.forall₂_map_left_iff.1 (reads_ofList_one h)
  clear h hword
  generalize word.toList = letters at hplain hall
  induction hall with
  | nil => rfl
  | cons hc hrest ih =>
      rw [List.all_cons, Bool.and_eq_true] at hplain
      rw [List.map_cons, List.map_cons, lower_of_exactly hplain.1 hc, ih hplain.2]

/-- The letters with which requests begin. -/
def requestInitials : List Char := ['f', 'a', 'x']

theorem client_initial {w : List Char} (h : Reads client w) :
    ∃ c rest, w = c :: rest ∧ Text.lower c ∈ requestInitials := by
  have hfirst : ∀ (d : Char) (tests : List CharTest), isPlain d = true →
      Text.lower d ∈ requestInitials →
      Reads (ofList ((CharTest.exactly .unicode d :: tests).map one)) w →
      ∃ c rest, w = c :: rest ∧ Text.lower c ∈ requestInitials := by
    intro d tests hplain hinitial h
    obtain ⟨c, rest, hc, -, rfl⟩ := List.forall₂_cons_left_iff.1 (reads_ofList_one h)
    exact ⟨c, rest, rfl, lower_of_exactly hplain hc ▸ hinitial⟩
  cases h with
  | left h => exact hfirst 'f' ("etch".toList.map (.exactly .unicode)) rfl (by decide) h
  | right h =>
      cases h with
      | left h => exact hfirst 'a' ("xios".toList.map (.exactly .unicode)) rfl (by decide) h
      | right h =>
          exact hfirst 'X' ("MLHttpRequest".toList.map (.exactly .unicode)) rfl (by decide) h

theorem reads_blanks {x : List Char} (h : Reads blanks x) : ∀ c ∈ x, c ∈ Secrets.blankList := by
  intro c hc
  have hblank : Text.isBlank c = true := by
    simpa [CharTest.holds, Member.holds, CharClass.holds] using (reads_run h).1 c hc
  exact Secrets.mem_blankList hblank

/-- An opening is a word, blanks and a brace. -/
theorem tryOpening_parts {o : List Char} (h : Reads tryOpening o) :
    ∃ x y, o = x ++ (y ++ ['\x7b']) ∧ x.map Text.lower = ['t', 'r', 'y'] ∧
      ∀ c ∈ y, c ∈ Secrets.blankList := by
  obtain ⟨x, y, rfl, hx, hy⟩ := reads_seq h
  obtain ⟨y, z, rfl, hblanks, hz⟩ := reads_seq hy
  obtain rfl : z = ['\x7b'] := reads_text hz
  exact ⟨x, y, rfl, lower_of_textAnyCase (by decide) hx, reads_blanks hblanks⟩

theorem tryOpening_initials {o : List Char} (h : Reads tryOpening o) :
    ∀ c ∈ o, Text.lower c ∉ requestInitials := by
  obtain ⟨x, y, rfl, hx, hy⟩ := tryOpening_parts h
  have hword : ['t', 'r', 'y'].all (fun d => !requestInitials.contains d) = true := rfl
  have hblank : Secrets.blankList.all (fun d => !requestInitials.contains (Text.lower d)) = true :=
    by decide +kernel
  intro c hc
  rw [List.mem_append, List.mem_append] at hc
  rcases hc with hc | hc | hc
  · have hmem : Text.lower c ∈ ['t', 'r', 'y'] := hx ▸ List.mem_map_of_mem hc
    simpa using List.all_eq_true.1 hword _ hmem
  · simpa using List.all_eq_true.1 hblank c (hy c hc)
  · rw [List.mem_singleton.1 hc]
    decide

theorem tryOpening_ne_nil {o : List Char} (h : Reads tryOpening o) : o ≠ [] := by
  obtain ⟨x, y, rfl, -⟩ := tryOpening_parts h
  simp

/-- No request begins within an opening. -/
theorem not_in_opening {o x y w c block : List Char} (ho : Reads tryOpening o)
    (hw : Reads client w) (hy : y ≠ []) (hopening : o = x ++ y) (h : w ++ c = y ++ block) :
    False := by
  obtain ⟨d, rest, rfl, hd⟩ := client_initial hw
  cases y with
  | nil => exact hy rfl
  | cons e y =>
      obtain ⟨rfl, -⟩ := List.cons.inj h
      exact tryOpening_initials ho d (by rw [hopening]; simp) hd

/-! ## What the order says of blocks -/

/-- If every block whose failure is caught is one that is tried, a request between the opening of
one block and the closing of one is in a block, or begins in front of another one. -/
theorem wraps_or_skips {s : List Char} (htried : CatchesTried s)
    (h : InOrder [tryOpening, client, catchClosing] s) : WrapsRequest s ∨ SkipsRequest s := by
  obtain ⟨a, o, _, rfl, ho, b, w, _, rfl, hw, c, e, z, rfl, he, -⟩ := h
  obtain ⟨a', o', block, hfront, ho', hblock⟩ :=
    htried (a ++ (o ++ (b ++ (w ++ c)))) e z (by simp) he
  have hsplit : a ++ (o ++ b) ++ (w ++ c) = a' ++ (o' ++ block) := by simpa using hfront
  have hwraps : ∀ y, block = y ++ (w ++ c) →
      WrapsRequest (a ++ (o ++ (b ++ (w ++ (c ++ (e ++ z)))))) := by
    intro y hy
    refine ⟨a', o', block, e, z, ?_, ho', hblock, ⟨y, w, c, hy, hw⟩, he⟩
    simpa using congrArg (· ++ (e ++ z)) hfront
  -- the block that is closed opens in front of the request, or behind where that begins
  rcases List.append_eq_append_iff.1 hsplit with ⟨x, -, hrest⟩ | ⟨x, -, hrest⟩
  · have hx : x ≠ [] := by
      rintro rfl
      exact not_in_opening ho' hw (tryOpening_ne_nil ho') (List.nil_append o').symm hrest
    refine .inr ⟨a, o, b, w ++ (c ++ (e ++ z)), rfl, ho, ⟨w, _, rfl, hw⟩,
      x, o', block, e, z, ?_, hx, ho', hblock, he⟩
    simpa using congrArg (· ++ (e ++ z)) hrest
  · rcases List.append_eq_append_iff.1 hrest with ⟨y, -, hy⟩ | ⟨y, ho'', hy⟩
    · exact .inl (hwraps y hy)
    · by_cases hnil : y = []
      · exact .inl (hwraps [] (by simpa [hnil] using hy.symm))
      · exact (not_in_opening ho' hw hnil ho'' hy).elim

theorem inOrder_of_wraps {s : List Char} (h : WrapsRequest s) :
    InOrder [tryOpening, client, catchClosing] s := by
  obtain ⟨a, o, _, e, b, rfl, ho, -, ⟨x, w, y, rfl, hw⟩, he⟩ := h
  refine ⟨a, o, _, rfl, ho, x, w, y ++ (e ++ b), ?_, hw, y, e, b, rfl, he, trivial⟩
  simp

/-! ## What is reported -/

theorem mem_hitsOnLines {p : Pattern} {hit : Hit} {ls : List (List Char)} : ∀ {number : Nat},
    hit ∈ ContentCheck.hitsOnLines p number ls ↔ ∃ (k : Nat) (line : List Char),
      ls[k]? = some line ∧ ∃ m ∈ p.allIn line,
        hit = ⟨(number + k : Nat), m.start + 1, String.ofList line⟩ := by
  induction ls with
  | nil => simp [ContentCheck.hitsOnLines]
  | cons line rest ih =>
      intro number
      rw [ContentCheck.hitsOnLines, List.mem_append, ih, List.mem_map]
      constructor
      · rintro (⟨m, hm, rfl⟩ | ⟨k, line', hline, m, hm, rfl⟩)
        · exact ⟨0, line, rfl, m, hm, rfl⟩
        · refine ⟨k + 1, line', hline, m, hm, ?_⟩
          rw [show number + 1 + k = number + (k + 1) by omega]
      · rintro ⟨k, line', hline, m, hm, rfl⟩
        cases k with
        | zero =>
            obtain rfl : line = line' := by simpa using hline
            exact .inl ⟨m, hm, rfl⟩
        | succ k =>
            refine .inr ⟨k, line', hline, m, hm, ?_⟩
            rw [show number + 1 + k = number + (k + 1) by omega]

theorem mem_content_check {catalog : Catalog} {filter : SeverityFilter} {file text : String}
    {check : ContentCheck} {hit : Hit} (hcheck : check ∈ catalog.checks)
    (hpasses : filter.passes check.severity = true) (hhit : hit ∈ check.locate text.toList) :
    Scan.checkFinding file check hit ∈ Scan.content catalog filter file text := by
  rw [(Scan.content_perm catalog filter file text).mem_iff, List.mem_append]
  have hcheck : check ∈ (catalog.passing filter).checks := List.mem_filter.2 ⟨hcheck, hpasses⟩
  exact .inr (List.mem_flatMap.2 ⟨check, hcheck, List.mem_map.2 ⟨hit, hhit, rfl⟩⟩)

/-- Where failures are not handled, every fetch whose result is used without more is reported. -/
theorem reported_of_unhandled {text : String} (h : handlesErrors text.toList = false)
    {filter : SeverityFilter} (hpasses : filter.passes .warning = true) (file : String) {k : Nat}
    {line : List Char} (hline : (lines text.toList)[k]? = some line) {m : Match}
    (hm : m ∈ fetchThen.allIn line) :
    ∃ f ∈ Scan.content catalog filter file text, f.rule = "Missing Error Handler" ∧
      f.line = (1 + k : Nat) ∧ f.column = m.start + 1 := by
  have hcheck : ∃ check ∈ checks, check.name = "Missing Error Handler" ∧
      check.severity = .warning ∧ ∀ s, handlesErrors s = false →
        check.locate s = ContentCheck.hitsOnLines fetchThen 1 (lines s) :=
    ⟨_, List.mem_cons_self, rfl, rfl, fun s hs => by simp [hs]⟩
  obtain ⟨check, hmem, hname, hseverity, hlocate⟩ := hcheck
  have hhit : ⟨(1 + k : Nat), m.start + 1, String.ofList line⟩ ∈ check.locate text.toList := by
    rw [hlocate _ h, mem_hitsOnLines]
    exact ⟨k, line, hline, m, hm, rfl⟩
  exact ⟨_, mem_content_check hmem (hseverity ▸ hpasses) hhit, hname, rfl, rfl⟩

/-- **Requests that are tried.** Failures count as handled if there is a call that handles one, or
if the opening of a block that is tried, a request and the closing of a block whose failure is
caught stand one behind the other. That is the same as a block around a request, unless a block
whose failure is caught is none that is tried, or a request stands behind the opening of one such
block and in front of another one. Where no failure is handled, a fetch is reported. -/
theorem handlesErrors_iff (text : String) :
    (handlesErrors text.toList = true ↔
      Contains catchCall text.toList ∨ InOrder [tryOpening, client, catchClosing] text.toList) ∧
    (¬Contains catchCall text.toList → CatchesTried text.toList → ¬SkipsRequest text.toList →
      (handlesErrors text.toList = true ↔ WrapsRequest text.toList) ∧
      (¬WrapsRequest text.toList → ∀ filter file, SeverityFilter.passes filter .warning = true →
        ∀ k line, (lines text.toList)[k]? = some line → ∀ m ∈ fetchThen.allIn line,
          ∃ f ∈ Scan.content catalog filter file text, f.rule = "Missing Error Handler" ∧
            f.line = (1 + k : Nat) ∧ f.column = m.start + 1)) := by
  refine ⟨handlesErrors_iff_inOrder, fun hcatch htried hskips => ?_⟩
  have hwraps : handlesErrors text.toList = true ↔ WrapsRequest text.toList := by
    rw [handlesErrors_iff_inOrder, or_iff_right hcatch]
    exact ⟨fun h => (wraps_or_skips htried h).resolve_right hskips, inOrder_of_wraps⟩
  refine ⟨hwraps, fun hnone filter file hpasses k line hline m hm => ?_⟩
  have hunhandled : handlesErrors text.toList = false := by
    rw [← Bool.not_eq_true, hwraps]
    exact hnone
  exact reported_of_unhandled hunhandled hpasses file hline hm

/-! ## Texts with one block -/

theorem catchClosing_head {e : List Char} (h : Reads catchClosing e) :
    ∃ rest, e = '\x7d' :: rest ∧ 5 ≤ rest.length := by
  obtain ⟨x, y, rfl, hx, hy⟩ := reads_seq h
  obtain ⟨y, z, rfl, -, hz⟩ := reads_seq hy
  obtain rfl : x = ['\x7d'] := reads_text hx
  have hlen := congrArg List.length (lower_of_textAnyCase (by decide) hz)
  rw [List.length_map, List.length_map] at hlen
  refine ⟨y ++ z, rfl, ?_⟩
  rw [List.length_append, hlen]
  exact Nat.le_add_left _ _

theorem tryOpening_try : Reads tryOpening "try\x7b".toList := by
  have hword : Reads (textAnyCase "try") ['t', 'r', 'y'] :=
    .seq (.one (by decide)) (.seq (.one (by decide)) (.one (by decide)))
  have hblanks : Reads blanks [] := .run nofun (Nat.le_refl 0) nofun
  have hopen : Reads tryOpening (['t', 'r', 'y'] ++ ([] ++ ['\x7b'])) :=
    .seq hword (.seq hblanks (.one (by decide)))
  exact hopen

/-- Where only one closing brace has room for a word behind it, it is enough that the block which
it closes is one that is tried. -/
theorem catchesTried_of_only {s before block : List Char}
    (hplace : s.take (before.length + 4 + block.length) = before ++ ("try\x7b".toList ++ block))
    (hblock : Balanced block)
    (honly : ∀ k < s.length - 5, s[k]? = some '\x7d' → k = before.length + 4 + block.length) :
    CatchesTried s := by
  intro a e b hsplit he
  obtain ⟨rest, rfl, hrest⟩ := catchClosing_head he
  have hlen : a.length < s.length - 5 := by
    rw [hsplit, List.length_append, List.length_append, List.length_cons]
    omega
  have hbrace : s[a.length]? = some '\x7d' := by
    rw [hsplit, List.getElem?_append_right (Nat.le_refl _), Nat.sub_self]
    rfl
  refine ⟨before, _, block, ?_, tryOpening_try, hblock⟩
  rw [← hplace, ← honly _ hlen hbrace, hsplit, List.take_left]

/-- An opening has a letter that such a text has only once. -/
theorem not_skips_of_once {s : List Char} (h : s.countP (Text.lower · = 'y') ≤ 1) :
    ¬SkipsRequest s := by
  rintro ⟨a, o, b, _, rfl, ho, -, x, o', block, e, z, rfl, -, ho', -⟩
  have hletter : ∀ {o}, Reads tryOpening o → 0 < o.countP (Text.lower · = 'y') := by
    intro o ho
    obtain ⟨x, y, rfl, hx, -⟩ := tryOpening_parts ho
    obtain ⟨c, hc, hlower⟩ : ∃ c ∈ x, Text.lower c = 'y' := by
      rw [← List.mem_map, hx]
      decide
    exact List.countP_pos_iff.2 ⟨c, List.mem_append_left _ hc, decide_eq_true hlower⟩
  simp only [List.countP_append] at h
  have := hletter ho
  have := hletter ho'
  omega

theorem Balanced.head_ne {c : Char} {s : List Char} (h : Balanced (c :: s)) : c ≠ '\x7d' := by
  cases h with
  | other _ hclose _ => exact hclose
  | block _ _ => decide

/-- Where every opening brace is closed at once, no block has a request in it. -/
theorem not_wraps_of_empty {s : List Char}
    (h : s.IsChain fun c d => c = '\x7b' → d = '\x7d') : ¬WrapsRequest s := by
  rintro ⟨a, o, block, e, b, rfl, ho, hblock, ⟨x, w, y, hinside, hw⟩, -⟩
  obtain ⟨u, v, rfl, -⟩ := tryOpening_parts ho
  cases block with
  | nil =>
      obtain ⟨c, rest, rfl, -⟩ := client_initial hw
      simp at hinside
  | cons c block =>
      have hsplit : a ++ ((u ++ (v ++ ['\x7b'])) ++ ((c :: block) ++ (e ++ b))) =
          a ++ (u ++ v) ++ '\x7b' :: c :: (block ++ (e ++ b)) := by simp
      exact hblock.head_ne (List.isChain_iff_forall_rel_of_append_cons_cons.1 h hsplit rfl)

/-- A block with a request. -/
def triedRequest : String := "try\x7bfetch(u)\x7dcatch(e)\x7b\x7d\n"

/-- A request in front of a block without one. -/
def untriedRequest : String := "fetch(u).then(f);\ntry\x7b\x7dcatch(e)\x7b\x7d\n"

/-- With a request in its block the first text handles failures. The other one does not, and its
fetch is reported. -/
theorem handlesErrors_iff_triedRequest :
    (¬Contains catchCall triedRequest.toList ∧ CatchesTried triedRequest.toList ∧
      ¬SkipsRequest triedRequest.toList ∧ WrapsRequest triedRequest.toList) ∧
    ¬Contains catchCall untriedRequest.toList ∧ CatchesTried untriedRequest.toList ∧
      ¬SkipsRequest untriedRequest.toList ∧ ¬WrapsRequest untriedRequest.toList ∧
      ∃ f ∈ Scan.content catalog .all "app.js" untriedRequest, f.rule = "Missing Error Handler" ∧
        f.line = (1 + 0 : Nat) ∧ f.column = 1 := by
  have hcatch : ¬Contains catchCall triedRequest.toList := by
    rw [← occursIn_iff_contains (by decide)]
    decide +kernel
  have hcatch' : ¬Contains catchCall untriedRequest.toList := by
    rw [← occursIn_iff_contains (by decide)]
    decide +kernel
  have htried : CatchesTried triedRequest.toList :=
    @catchesTried_of_only _ [] "fetch(u)".toList (by decide)
      (balanced_of_plain (by decide) (by decide)) (by decide)
  have hskips : ¬SkipsRequest triedRequest.toList := not_skips_of_once (by decide)
  have hwraps : WrapsRequest triedRequest.toList :=
    ((handlesErrors_iff triedRequest).2 hcatch htried hskips).1.1 (by decide +kernel)
  have htried' : CatchesTried untriedRequest.toList :=
    @catchesTried_of_only _ "fetch(u).then(f);\n".toList [] (by decide) .nil (by decide)
  have hskips' : ¬SkipsRequest untriedRequest.toList := not_skips_of_once (by decide)
  have hnone : ¬WrapsRequest untriedRequest.toList := not_wraps_of_empty (by decide)
  refine ⟨⟨hcatch, htried, hskips, hwraps⟩, hcatch', htried', hskips', hnone, ?_⟩
  have hstarts : (fetchThen.allIn "fetch(u).then(f);".toList).map (·.start) = [0] := by
    decide +kernel
  obtain ⟨m, hm, hstart⟩ := List.mem_map.1 (hstarts ▸ List.mem_singleton_self 0)
  obtain ⟨f, hf, hrule, hline, hcolumn⟩ :=
    ((handlesErrors_iff untriedRequest).2 hcatch' htried' hskips').2 hnone .all "app.js" rfl 0 _
      (by decide) m hm
  exact ⟨f, hf, hrule, hline, by rw [hcolumn, hstart]; rfl⟩

/-! ## A request between two blocks -/

/-- Two blocks without requests, and a fetch between them. -/
def betweenBlocks : String :=
  "try\x7b\x7dcatch(e)\x7b\x7d\nfetch(u).then(f);\ntry\x7b\x7dcatch(e)\x7b\x7d\n"

/-- No block has a request in it, and yet the fetch is not reported. -/
theorem handlesErrors_betweenBlocks :
    ¬Contains catchCall betweenBlocks.toList ∧ ¬WrapsRequest betweenBlocks.toList ∧
      handlesErrors betweenBlocks.toList = true ∧
      Scan.content catalog .all "app.js" betweenBlocks = [] := by
  refine ⟨?_, not_wraps_of_empty (by decide), by decide +kernel, by decide +kernel⟩
  rw [← occursIn_iff_contains (by decide)]
  decide +kernel

end Network

end SecretScan

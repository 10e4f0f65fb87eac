import SecretScan.Catalog.Secrets
import SecretScan.Proofs.Pattern.Reads
import Mathlib.Data.Bool.AllAny

/-!
# Keys of interfaces and their names

What the rule for keys matches is a name, a colon or an equals sign, and a value in quotes.
Neither the part up to the value nor the value itself has a quote in it, and the value has
no sign. So two such texts do not overlap (`apiKey_separate`), and the rule finds all of
them.
-/

namespace SecretScan

namespace Secrets

open Pattern

/-- The blanks of all scripts. -/
def blankList : List Char :=
  (List.range' 0x09 5 ++ List.range' 0x1C 4 ++ [0x20, 0x85, 0xA0, 0x1680] ++
    List.range' 0x2000 11 ++ [0x2028, 0x2029, 0x202F, 0x205F, 0x3000]).map Char.ofNat

/-- The blanks one by one, for checks of what a pattern does with each of them. -/
theorem blankList_eq : blankList = ['\t', '\n', '\x0b', '\x0c', '\r', '\x1c', '\x1d', '\x1e',
    '\x1f', ' ', '\x85', '\xa0', '\u1680', '\u2000', '\u2001', '\u2002', '\u2003', '\u2004',
    '\u2005', '\u2006', '\u2007', '\u2008', '\u2009', '\u200a', '\u2028', '\u2029', '\u202f',
    '\u205f', '\u3000'] := rfl

/-- The signs between a name and a value. -/
def signs : List Char := [':', '=']

/-- Both kinds of quotes. -/
def quotes : List Char := ['"', '\'']

theorem mem_blankList {c : Char} (h : Text.isBlank c = true) : c ∈ blankList := by
  have hspace : c = ' ' ↔ c.toNat = 0x20 := Char.toNat_inj.symm
  simp only [Text.isBlank, Text.isAsciiBlank, Bool.or_eq_true, Bool.and_eq_true,
    decide_eq_true_eq, beq_iff_eq, hspace] at h
  rw [← Char.ofNat_toNat c]
  refine List.mem_map.2 ⟨c.toNat, ?_, rfl⟩
  simp only [List.mem_append, List.mem_range'_1, List.mem_cons, List.not_mem_nil, or_false]
  omega

/-- The test for the characters of a value. -/
def apiValueChar : CharTest := .alphanumericOr .unicode "_-"

/-- The parts of what the rule for keys matches: what stands before the value, the value
and its two quotes. The first part is a name and then blanks and a sign. -/
structure ApiKeyText (w name rest value : List Char) (q q' : Char) : Prop where
  text : w = name ++ rest ++ q :: (value ++ [q'])
  name_read : Reads apiKeyName name
  rest_read : Reads (ofList [blanks, charOf ":=", blanks]) rest
  value_read : Reads (atLeast 16 apiValueChar) value
  quote : IsQuote q
  quote' : IsQuote q'

theorem apiKey_text {w : List Char} (h : Reads apiKeyPattern w) :
    ∃ name rest value q q', ApiKeyText w name rest value q q' := by
  obtain ⟨name, w, rfl, hname, h⟩ := reads_seq h
  obtain ⟨before, w, rfl, hbefore, h⟩ := reads_seq h
  obtain ⟨sign, w, rfl, hsign, h⟩ := reads_seq h
  obtain ⟨behind, w, rfl, hbehind, h⟩ := reads_seq h
  obtain ⟨opening, w, rfl, hopen, h⟩ := reads_seq h
  obtain ⟨value, close, rfl, hvalue, hclose⟩ := reads_seq h
  obtain ⟨q, rfl, hq⟩ := reads_one hopen
  obtain ⟨q', rfl, hq'⟩ := reads_one hclose
  have hquote : ∀ {q : Char}, (CharTest.within .exact [] "\"'").holds q = true → IsQuote q := by
    intro q hq
    rw [holds_within_singles] at hq
    simpa [IsQuote] using hq
  cases hvalue with
  | group hvalue =>
      refine ⟨name, before ++ (sign ++ behind), value, q, q', ⟨?_, hname, ?_, hvalue, hquote hq,
        hquote hq'⟩⟩
      · simp
      · exact .seq hbefore (.seq hsign hbehind)

/-! ## The parts -/

/-- A name has six or seven letters, and the first two of them differ. -/
theorem apiKeyName_letters {name : List Char} (h : Reads apiKeyName name) :
    ∃ a b tail, name = a :: b :: tail ∧ (CharTest.exactly .unicode 'a').holds a = true ∧
      (CharTest.exactly .unicode 'p').holds b = true ∧ 6 ≤ name.length ∧ name.length ≤ 7 := by
  have hletters : ∀ {tests : List CharTest} {x : List Char},
      Reads (ofList ((CharTest.exactly .unicode 'a' :: .exactly .unicode 'p' :: tests).map one)) x →
      ∃ a b tail, x = a :: b :: tail ∧ (CharTest.exactly .unicode 'a').holds a = true ∧
        (CharTest.exactly .unicode 'p').holds b = true ∧ tail.length = tests.length := by
    intro tests x hx
    obtain ⟨a, x', ha, hx', rfl⟩ := List.forall₂_cons_left_iff.1 (reads_ofList_one hx)
    obtain ⟨b, tail, hb, htail, rfl⟩ := List.forall₂_cons_left_iff.1 hx'
    exact ⟨a, b, tail, rfl, ha, hb, htail.length_eq.symm⟩
  cases h with
  | left h =>
      obtain ⟨x, w, rfl, hx, h⟩ := reads_seq h
      obtain ⟨sep, y, rfl, hsep, hy⟩ := reads_seq h
      obtain ⟨-, -, hmost⟩ := reads_run hsep
      have hsep := hmost 1 rfl
      obtain ⟨a, b, tail, rfl, ha, hb, htail⟩ := @hletters [.exactly .unicode 'i'] x hx
      have hy : List.Forall₂ (fun t a => CharTest.holds t a = true)
          [.exactly .unicode 'k', .exactly .unicode 'e', .exactly .unicode 'y'] y :=
        reads_ofList_one hy
      have hylen := hy.length_eq
      refine ⟨a, b, tail ++ (sep ++ y), rfl, ha, hb, ?_, ?_⟩ <;>
        simp only [List.length_append, List.length_cons, List.length_nil] at * <;> omega
  | right h =>
      obtain ⟨a, b, tail, rfl, ha, hb, htail⟩ := @hletters [.exactly .unicode 'i',
        .exactly .unicode 'k', .exactly .unicode 'e', .exactly .unicode 'y'] name h
      refine ⟨a, b, tail, rfl, ha, hb, ?_, ?_⟩ <;>
        simp only [List.length_cons, List.length_nil] at * <;> omega

/-- No letter is both the first and the second one of a name. -/
theorem not_first_second {c : Char} (ha : (CharTest.exactly .unicode 'a').holds c = true)
    (hp : (CharTest.exactly .unicode 'p').holds c = true) : False := by
  have hfold : ∀ {d : Char}, Folding.hasCase .unicode d = true → Text.lower d = d →
      Folding.siblings .unicode d = [] → (CharTest.exactly .unicode d).holds c = true →
      Text.lower c = d := by
    intro d hcase hlower hsiblings h
    simpa [CharTest.holds, CharTest.same, Folding.lower, hcase, hlower, hsiblings] using h
  have hc := hfold (by decide) (by decide) (by decide) ha
  rw [hfold (by decide) (by decide) (by decide) hp] at hc
  exact absurd hc (by decide)

/-- What is read by the part up to the value begins with a blank or a sign and holds nothing
else, and it holds a sign. -/
theorem apiKeyRest {rest : List Char}
    (h : Reads (ofList [blanks, charOf ":=", blanks]) rest) :
    (∀ c ∈ rest, c ∈ blankList ++ signs) ∧ ∃ c ∈ rest, c ∈ signs := by
  obtain ⟨before, w, rfl, hbefore, h⟩ := reads_seq h
  obtain ⟨sign, behind, rfl, hsign, hbehind⟩ := reads_seq h
  obtain ⟨c, rfl, hc⟩ := reads_one hsign
  rw [holds_within_singles] at hc
  have hc : c ∈ signs := by simpa [signs] using hc
  have hblank : ∀ {x : List Char}, Reads blanks x → ∀ c ∈ x, c ∈ blankList ++ signs := by
    intro x hx c hc
    have hall := (reads_run hx).1 c hc
    have hall : Text.isBlank c = true := by
      simpa [CharTest.holds, Member.holds, CharClass.holds] using hall
    exact List.mem_append_left _ (mem_blankList hall)
  refine ⟨?_, c, by simp, hc⟩
  intro d hd
  rcases List.mem_append.1 hd with hd | hd
  · exact hblank hbefore d hd
  · rcases List.mem_append.1 hd with hd | hd
    · rw [List.mem_singleton.1 hd]
      exact List.mem_append_right _ hc
    · exact hblank hbehind d hd

/-- A text can be cut in one way only at the first character of some kind. -/
theorem cut_unique {kind x x' y y' : List Char} {c c' : Char} (hx : ∀ d ∈ kind, d ∉ x)
    (hx' : ∀ d ∈ kind, d ∉ x') (hc : c ∈ kind) (hc' : c' ∈ kind)
    (h : x ++ c :: y = x' ++ c' :: y') : x = x' ∧ c = c' ∧ y = y' := by
  induction x generalizing x' with
  | nil =>
      cases x' with
      | nil =>
          obtain ⟨rfl, rfl⟩ := List.cons.inj h
          exact ⟨rfl, rfl, rfl⟩
      | cons d x' =>
          obtain ⟨rfl, -⟩ := List.cons.inj h
          exact absurd List.mem_cons_self (hx' c hc)
  | cons d x ih =>
      cases x' with
      | nil =>
          obtain ⟨rfl, -⟩ := List.cons.inj h
          exact absurd List.mem_cons_self (hx d hc')
      | cons d' x' =>
          obtain ⟨rfl, hrest⟩ := List.cons.inj h
          obtain ⟨rfl, hcut⟩ := ih (fun e he hmem => hx e he (List.mem_cons_of_mem d hmem))
            (fun e he hmem => hx' e he (List.mem_cons_of_mem d hmem)) hrest
          exact ⟨rfl, hcut⟩

/-! ## Keys do not overlap -/

variable {w name rest value : List Char} {q q' : Char}

theorem ApiKeyText.name_not_mem (h : ApiKeyText w name rest value q q') :
    ∀ c ∈ blankList ++ signs ++ quotes, c ∉ name :=
  h.name_read.shuns (show apiKeyName.shuns false (blankList ++ signs ++ quotes) = true by
    rw [blankList_eq]
    decide +kernel)

theorem ApiKeyText.value_not_mem (h : ApiKeyText w name rest value q q') :
    ∀ c ∈ signs ++ quotes, c ∉ value :=
  h.value_read.shuns (show (atLeast 16 apiValueChar).shuns false (signs ++ quotes) = true by
    decide +kernel)

theorem ApiKeyText.front_not_mem (h : ApiKeyText w name rest value q q') :
    ∀ c ∈ quotes, c ∉ name ++ rest := by
  intro c hc hmem
  rcases List.mem_append.1 hmem with hmem | hmem
  · exact h.name_not_mem c (List.mem_append_right _ hc) hmem
  · have hrest := (apiKeyRest h.rest_read).1 c hmem
    have hdisjoint : ∀ c ∈ quotes, c ∉ blankList ++ signs :=
      List.all_iff_forall_prop.1 (by decide)
    exact hdisjoint c hc hrest

/-- Before the first quote there is a name, and so something. -/
theorem ApiKeyText.front_ne_nil (h : ApiKeyText w name rest value q q') : name ++ rest ≠ [] := by
  obtain ⟨a, b, tail, rfl, -⟩ := apiKeyName_letters h.name_read
  simp

theorem mem_quotes {q : Char} (h : IsQuote q) : q ∈ quotes := by
  rcases h with rfl | rfl <;> decide

/-- A name and what goes with it is not the end of another name and what goes with it. -/
theorem name_rest_unique {x name rest name' rest' : List Char} (hname : Reads apiKeyName name)
    (hname' : Reads apiKeyName name') (hfree : ∀ c ∈ blankList ++ signs, c ∉ name)
    (hfree' : ∀ c ∈ blankList ++ signs, c ∉ name')
    (hrest : Reads (ofList [blanks, charOf ":=", blanks]) rest)
    (hrest' : Reads (ofList [blanks, charOf ":=", blanks]) rest')
    (h : name ++ rest = x ++ (name' ++ rest')) : x = [] := by
  obtain ⟨a, b, tail, hab, ha, hb, hlo, hhi⟩ := apiKeyName_letters hname
  obtain ⟨a', b', tail', hab', ha', hb', hlo', hhi'⟩ := apiKeyName_letters hname'
  obtain ⟨hall, hsign⟩ := apiKeyRest hrest
  obtain ⟨hall', hsign'⟩ := apiKeyRest hrest'
  rcases List.append_eq_append_iff.1 h with ⟨n, hx, hr⟩ | ⟨n, hn, hr⟩
  · -- the other name would begin behind this one, with a blank or a sign
    have hmem : a' ∈ rest := by rw [hr, hab']; simp
    exact absurd (hab' ▸ List.mem_cons_self) (hfree' a' (hall a' hmem))
  · cases rest with
    | nil => obtain ⟨c, hc, -⟩ := hsign; cases hc
    | cons c rest =>
        cases rest' with
        | nil => obtain ⟨c, hc, -⟩ := hsign'; cases hc
        | cons c' rest' =>
            have hfree'' : ∀ d ∈ blankList ++ signs, d ∉ n := by
              intro d hd hmem
              exact hfree d hd (by rw [hn]; exact List.mem_append_right x hmem)
            obtain ⟨rfl, -⟩ := cut_unique hfree'' hfree' (hall c List.mem_cons_self)
              (hall' c' List.mem_cons_self) hr.symm
            have hlen := congrArg List.length hn
            rw [List.length_append] at hlen
            cases x with
            | nil => rfl
            | cons d x =>
                rw [List.length_cons] at hlen
                obtain rfl : x = [] := List.length_eq_zero_iff.1 (by omega)
                -- so the second letter of this name would be the first one of the other
                rw [hab, hab'] at hn
                obtain ⟨-, hn⟩ := List.cons.inj hn
                obtain ⟨rfl, -⟩ := List.cons.inj hn
                exact (not_first_second ha' hb).elim

/-- Two texts that the rule for keys matches are the same or do not overlap. -/
theorem apiKey_separate : Separate apiKeyPattern := by
  intro w y x w' y' hw hw' h
  obtain ⟨name, rest, value, q, r, hk⟩ := apiKey_text hw
  obtain ⟨name', rest', value', q', r', hk'⟩ := apiKey_text hw'
  have hq := mem_quotes hk.quote
  have hq' := mem_quotes hk'.quote
  have hvalue : ∀ c ∈ quotes, c ∉ value := fun c hc => hk.value_not_mem c (by simp [hc])
  have hvalue' : ∀ c ∈ quotes, c ∉ value' := fun c hc => hk'.value_not_mem c (by simp [hc])
  -- a quote is not where the other text begins
  have hfront : ∀ {q z}, q ∈ quotes → q :: z = name' ++ rest' ++ q' :: (value' ++ r' :: y') →
      False := by
    intro q z hq heq
    have hnil := (cut_unique (x := []) (by simp) hk'.front_not_mem hq hq' heq).1
    exact hk'.front_ne_nil hnil.symm
  have h : name ++ rest ++ q :: (value ++ r :: y) =
      x ++ (name' ++ rest' ++ q' :: (value' ++ r' :: y')) := by
    rw [hk.text, hk'.text] at h
    simpa using h
  rcases List.append_eq_append_iff.1 h with ⟨n, hx, hr⟩ | ⟨n, hn, hr⟩
  · -- the other text begins with the value or behind it
    right
    cases n with
    | nil => exact (hfront hq hr).elim
    | cons c n =>
        obtain ⟨rfl, hrest⟩ := List.cons.inj hr
        rcases List.append_eq_append_iff.1 hrest with ⟨m, hn, hr'⟩ | ⟨m, hm, hr'⟩
        · cases m with
          | nil => exact (hfront (mem_quotes hk.quote') hr').elim
          | cons d m =>
              rw [hk.text, hx, hn]
              simp only [List.length_append, List.length_cons, List.length_nil]
              omega
        · have hm' : ∀ c ∈ quotes, c ∉ m := by
            intro c hc hmem
            exact hvalue c hc (by rw [hm]; exact List.mem_append_right n hmem)
          obtain ⟨rfl, -⟩ := cut_unique hk'.front_not_mem hm' hq' (mem_quotes hk.quote') hr'
          obtain ⟨-, c, hc, hsign⟩ := apiKeyRest hk'.rest_read
          exact absurd (by rw [hm]; simp [hc]) (hk.value_not_mem c (by simp [hsign]))
  · -- the other text ends where this one does
    left
    have hn' : ∀ c ∈ quotes, c ∉ n := by
      intro c hc hmem
      exact hk.front_not_mem c hc (by rw [hn]; exact List.mem_append_right x hmem)
    obtain ⟨rfl, rfl, hrest⟩ := cut_unique hk'.front_not_mem hn' hq' hq hr
    obtain ⟨rfl, rfl, -⟩ := cut_unique hvalue' hvalue (mem_quotes hk'.quote')
      (mem_quotes hk.quote') hrest
    have hfree : ∀ c ∈ blankList ++ signs, c ∉ name :=
      fun c hc => hk.name_not_mem c (List.mem_append_left _ hc)
    have hfree' : ∀ c ∈ blankList ++ signs, c ∉ name' :=
      fun c hc => hk'.name_not_mem c (List.mem_append_left _ hc)
    have hx := name_rest_unique hk.name_read hk'.name_read hfree hfree' hk.rest_read hk'.rest_read hn
    refine ⟨hx, ?_⟩
    rw [hx, List.nil_append] at hn
    rw [hk.text, hk'.text, hn]

end Secrets

end SecretScan

import SecretScan.Console.Markup
import SecretScan.Proofs.Env.Names

/-!
# Laws of consoles

Consoles differ in what their tags do, in the names that they replace by pictures, and in what
they make of odd characters. All of them show ordinary text as it is, take the tags in it away, and
refuse a tag that closes what no other has opened (`LawfulMarkup`). Escaping keeps tags from being
followed, so no escaped text is refused; whether it is shown as it is depends, where there is more
in it than tags, on the console (`IsSafe`).
-/

namespace SecretScan.Console

/-! ## Ordinary text -/

/-- Whether a character is a line feed or one that can be seen, and no backslash. -/
def isQuiet (c : Char) : Bool :=
  let n := c.toNat
  c != '\\' && (c == '\n' || (0x20 ≤ n && n < 0x7F) || 0xA0 ≤ n)

/-- Text in which a console finds at most tags. With one colon there is no name between colons. -/
def IsQuiet (s : String) : Prop := s.toList.all isQuiet = true ∧ s.toList.count ':' ≤ 1

instance (s : String) : Decidable (IsQuiet s) := inferInstanceAs (Decidable (_ ∧ _))

/-- Text in which a console finds nothing to do. -/
def IsOrdinary (s : String) : Prop := IsQuiet s ∧ '[' ∉ s.toList ∧ ']' ∉ s.toList

instance (s : String) : Decidable (IsOrdinary s) := inferInstanceAs (Decidable (_ ∧ _))

/-- The name of a style: a small letter, and more of them or digits behind it. -/
def IsName (name : String) : Prop :=
  name.toList.head?.any Char.isLower = true ∧
    name.toList.all (fun c => c.isLower || c.isDigit) = true

instance (name : String) : Decidable (IsName name) := inferInstanceAs (Decidable (_ ∧ _))

theorem IsOrdinary.of_append {s t : String} (h : IsOrdinary (s ++ t)) :
    IsOrdinary s ∧ IsOrdinary t := by
  obtain ⟨⟨hall, hcount⟩, hopen, hclose⟩ := h
  rw [String.toList_append, List.mem_append, not_or] at hopen hclose
  rw [String.toList_append, List.all_append, Bool.and_eq_true] at hall
  rw [String.toList_append, List.count_append] at hcount
  exact ⟨⟨⟨hall.1, by omega⟩, hopen.1, hclose.1⟩, ⟨⟨hall.2, by omega⟩, hopen.2, hclose.2⟩⟩

theorem IsOrdinary.append {s t : String} (hs : IsOrdinary s) (ht : IsOrdinary t)
    (hcount : s.toList.count ':' + t.toList.count ':' ≤ 1) : IsOrdinary (s ++ t) := by
  refine ⟨⟨?_, ?_⟩, ?_, ?_⟩ <;> rw [String.toList_append]
  · rw [List.all_append, hs.1.1, ht.1.1]
    rfl
  · rwa [List.count_append]
  · exact List.not_mem_append hs.2.1 ht.2.1
  · exact List.not_mem_append hs.2.2 ht.2.2

/-! ## Numbers -/

/-- Text of characters that a number is written with. -/
def IsNumeral (s : String) : Prop := ∀ c ∈ s.toList, c ∈ "-0123456789".toList

theorem isNumeral_nat (n : Nat) : IsNumeral (toString n) :=
  fun c hc => List.mem_cons_of_mem _ (Env.toString_digits n c hc)

theorem isNumeral_int (n : Int) : IsNumeral (toString n) := by
  cases n with
  | ofNat n => exact isNumeral_nat n
  | negSucc n =>
      have hshape : toString (Int.negSucc n) = "-" ++ toString (n + 1) := rfl
      intro c hc
      rw [hshape, String.toList_append] at hc
      obtain hc | hc := List.mem_append.1 hc
      · exact List.mem_singleton.1 hc ▸ List.mem_cons_self
      · exact isNumeral_nat (n + 1) c hc

theorem IsNumeral.isOrdinary {s : String} (hs : IsNumeral s) :
    IsOrdinary s ∧ s.toList.count ':' = 0 := by
  have hchars : ∀ c ∈ "-0123456789".toList, isQuiet c = true ∧ c ∉ [':', '[', ']'] := by
    have h : ("-0123456789".toList.all fun c => isQuiet c && !([':', '[', ']'].contains c)) := by
      decide
    intro c hc
    simpa using List.all_eq_true.1 h c hc
  have hnot : ∀ c ∈ [':', '[', ']'], c ∉ s.toList :=
    fun c hc hin => (hchars c (hs c hin)).2 hc
  have hcount : s.toList.count ':' = 0 := List.count_eq_zero.2 (hnot ':' (by decide))
  have hall : s.toList.all isQuiet = true :=
    List.all_eq_true.2 fun c hc => (hchars c (hs c hc)).1
  exact ⟨⟨⟨hall, by omega⟩, hnot '[' (by decide), hnot ']' (by decide)⟩, hcount⟩

/-! ## Consoles -/

variable [Markup]

/-- A text that is shown as it is. -/
def IsPlain (s : String) : Prop := Markup.shown? s = some s

/-- A text that is shown as it is once it is escaped. -/
def IsSafe (s : String) : Prop := Markup.shown? (Markup.escape s) = some s

/-- A console shows ordinary text as it is and takes away the tags in it; it refuses a tag that
closes what is not open. Escaped text it shows as it is if there is nothing but tags in it, and
otherwise in one way or another, be it in a style or by itself. -/
class LawfulMarkup : Prop where
  ordinary {s : String} : IsOrdinary s → IsPlain s
  opened {name before after : String} : IsName name → IsOrdinary (before ++ after) →
    Markup.shown? (before ++ opening name ++ after) = some (before ++ after)
  unopened {name before : String} (after : String) : IsName name → IsOrdinary before →
    Markup.shown? (before ++ closing name ++ after) = none
  styled {name before s : String} : IsName name → IsOrdinary (before ++ s) →
    Markup.shown? (before ++ styled name s) = some (before ++ s)
  escaped {s : String} : IsQuiet s → IsSafe s
  escaped_shown (s : String) : Markup.shown? (Markup.escape s) ≠ none
  escaped_styled {name after : String} (s : String) : IsName name → IsOrdinary after →
    after ≠ "" → Markup.shown? (Console.styled name (Markup.escape s ++ after)) ≠ none

end SecretScan.Console

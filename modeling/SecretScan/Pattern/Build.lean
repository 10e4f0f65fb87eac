import SecretScan.Pattern.Width

/-!
# Building patterns

Short names for the patterns that rules are made of, so that a rule in a catalog
can be read like a sentence.
-/

namespace SecretScan

namespace CharTest

/-- A character of some ranges, or one of some single characters. -/
def within (fold : Folding) (ranges : List (Char × Char)) (singles : String) : CharTest :=
  .oneOf fold false
    (ranges.map (fun (lo, hi) => Member.range lo.toNat hi.toNat) ++ singles.toList.map Member.char)

/-- Any character but some. -/
def noneOf (singles : String) : CharTest :=
  .oneOf .exact true (singles.toList.map Member.char)

/-- Any character but blanks and some others. -/
def noBlankNor (singles : String) : CharTest :=
  .oneOf .exact true (.cls .blank .unicode false :: singles.toList.map Member.char)

/-- Letters of both cases and digits, and some single characters. -/
def alphanumericOr (fold : Folding) (singles : String) : CharTest :=
  within fold [('a', 'z'), ('A', 'Z'), ('0', '9')] singles

end CharTest

namespace Pattern

/-- A text as it is written. -/
def text (s : String) : Pattern :=
  ofList (s.toList.map fun c => one (.exactly .exact c))

/-- A text in any case. -/
def textAnyCase (s : String) : Pattern :=
  ofList (s.toList.map fun c => one (.exactly .unicode c))

/-- One of several texts, in any case, the first that fits. -/
def wordOf (texts : List String) : Pattern :=
  anyOf (texts.map textAnyCase)

/-- One of some characters. -/
def charOf (singles : String) : Pattern :=
  one (CharTest.within .exact [] singles)

/-- A pattern or nothing. -/
def optional (p : Pattern) : Pattern := times .greedy 0 (some 1) p

/-- Any number of characters that pass a test, as many as possible. -/
def many (t : CharTest) : Pattern := times .greedy 0 none (one t)

/-- At least `n` characters that pass a test, as many as possible. -/
def atLeast (n : Nat) (t : CharTest) : Pattern := times .greedy n none (one t)

/-- Exactly `n` characters that pass a test. -/
def count (n : Nat) (t : CharTest) : Pattern := times .greedy n (some n) (one t)

/-- Any number of blanks. -/
def blanks : Pattern := many (.oneOf .exact false [.cls .blank .unicode false])

/-- At least one blank. -/
def someBlanks : Pattern := atLeast 1 (.oneOf .exact false [.cls .blank .unicode false])

/-- A single or a double quote. -/
def quote : Pattern := charOf "\"'"

/-- An edge of a word. -/
def wordEdge : Pattern := anchor (.boundary .unicode false)

end Pattern

end SecretScan

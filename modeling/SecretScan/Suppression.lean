import SecretScan.Text.Search

/-!
# Suppression

Values that were made up, for a test or for an example, usually say so. A match
that carries one of these marks is no secret.
-/

namespace SecretScan.Suppression

/-- Marks of values that were made up for a test. -/
def fakeMarkers : List String := ["FAKE_", "YOUR_"]

/-- Marks of values that stand for others in a text. -/
def placeholderMarkers : List String := ["example", "placeholder", "xxx", "XXXX"]

/-- Whether a text carries one of some marks. -/
def carries (marks : List String) (s : List Char) : Bool :=
  marks.any fun m => Text.occursIn m.toList s

/-- Whether a value was made up for a test. -/
def isFake (s : List Char) : Bool := carries fakeMarkers s

/-- Whether a value stands for another one. -/
def isPlaceholder (s : List Char) : Bool := carries placeholderMarkers s

/-- Whether a match is dropped where placeholders are dropped. -/
def isSuppressed (s : List Char) : Bool := isFake s || isPlaceholder s

end SecretScan.Suppression

/-!
# Finding and cutting texts

Plain text search over lists of characters, and the cuts that need it.
-/

namespace SecretScan.Text

/-- Whether a text occurs inside another. -/
def occursIn (sub : List Char) : List Char → Bool
  | [] => sub.isEmpty
  | c :: rest => sub.isPrefixOf (c :: rest) || occursIn sub rest

/-- The parts of a text between the occurrences of a character. There is always at
least one part, and no part holds the character. -/
def splitAt (sep : Char) : List Char → List (List Char)
  | [] => [[]]
  | c :: rest =>
    if c = sep then [] :: splitAt sep rest
    else match splitAt sep rest with
      | part :: parts => (c :: part) :: parts
      | [] => [[c]]

/-- The lines of a text: what stands between its line feeds. A final line feed is
followed by one more line, which is empty. -/
def lines (s : List Char) : List (List Char) :=
  splitAt '\n' s

/-- Texts with a separator between them. -/
def join (sep : String) : List String → String
  | [] => ""
  | [s] => s
  | s :: rest => s ++ sep ++ join sep rest

end SecretScan.Text

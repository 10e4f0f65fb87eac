import SecretScan.Text.CharName.Table
import SecretScan.Text.CodePoints
import SecretScan.Text.Integer

/-!
# Characters by their names

A character is found by its name or by one of its aliases, in letters of either
case. Names of Hangul syllables and of unified ideographs are made by a rule, and
count in capitals only; names that end in the number of their character belong to
a few numbered classes. Names of sequences of characters are not names here.
-/

namespace SecretScan.Text

namespace CharName

/-- The names in a packed text, as words. Each begins with a small letter, which
says how many words it takes from the name before it: none for `a`, one for `b`. -/
def unpack (before : List String) : List (List Char) → List (List String)
  | (c :: more) :: rest =>
    let name := before.take (c.toNat - 'a'.toNat) ++ (String.ofList more).splitOn " "
    name :: unpack name rest
  | _ => []

/-- The names of a run, first to last. -/
def Run.names (r : Run) : List (List String) :=
  unpack [] ((String.join r.2).toList.splitBy fun _ c => !c.isLower)

/-- All names that are not made by a rule. -/
def runs : List Run :=
  runsFrom0 ++ runsFrom1000 ++ runsFrom2000 ++ runsFrom10000 ++ runsFrom11000 ++ runsFrom1E000 ++
    aliases

/-- The character of a run that has a name. -/
def Run.find? (r : Run) (name : List String) : Option Nat :=
  (r.names.idxOf? name).map (r.1 + ·)

/-- The number at the end of a name: four hexadecimal digits, or five. -/
def number? (digits : List Char) : Option Nat :=
  if (digits.length == 4 || digits.length == 5) &&
      digits.all fun c => c.isDigit || ('A' ≤ c && c ≤ 'F')
  then some (ofDigits 16 (digits.filterMap (digitIn? 16)))
  else none

/-- What follows the beginning of a name. -/
def after? (start : String) (name : List Char) : Option (List Char) :=
  if start.toList.isPrefixOf name then some (name.drop start.length) else none

/-- The unified ideographs, whose names are their numbers. -/
def ideographs : CodePoints :=
  [(0x3400, 0x4DBF), (0x4E00, 0x9FFF), (0x20000, 0x2A6DF), (0x2A700, 0x2B738),
   (0x2B740, 0x2B81D), (0x2B820, 0x2CEA1), (0x2CEB0, 0x2EBE0), (0x30000, 0x3134A)]

/-- Classes of characters with numbers in their names, by how the names begin. -/
def numbered : List (String × CodePoints) :=
  [("CJK COMPATIBILITY IDEOGRAPH-", [(0xF900, 0xFA6D), (0xFA70, 0xFAD9), (0x2F800, 0x2FA1D)]),
   ("KHITAN SMALL SCRIPT CHARACTER-", [(0x18B00, 0x18CD5)]),
   ("NUSHU CHARACTER-", [(0x1B170, 0x1B2FB)])]

/-- The leading consonants of Hangul syllables. -/
def leads : List String :=
  ["G", "GG", "N", "D", "DD", "R", "M", "B", "BB", "S", "SS", "", "J", "JJ", "C", "K", "T", "P",
   "H"]

/-- The vowels of Hangul syllables. -/
def vowels : List String :=
  ["A", "AE", "YA", "YAE", "EO", "E", "YEO", "YE", "O", "WA", "WAE", "OE", "YO", "U", "WEO", "WE",
   "WI", "YU", "EU", "YI", "I"]

/-- The consonants that end Hangul syllables. -/
def tails : List String :=
  ["", "G", "GG", "GS", "N", "NJ", "NH", "D", "L", "LG", "LM", "LB", "LS", "LT", "LP", "LH", "M",
   "B", "BS", "S", "SS", "NG", "J", "C", "K", "T", "P", "H"]

/-- The Hangul syllable that is made of the given letters. -/
def syllable? (letters : List Char) : Option Nat :=
  leads.zipIdx.findSome? fun (lead, i) => do
    let letters ← after? lead letters
    vowels.zipIdx.findSome? fun (vowel, j) => do
      let tail ← after? vowel letters
      let k ← tails.idxOf? (String.ofList tail)
      some (0xAC00 + (i * vowels.length + j) * tails.length + k)

/-- The unified ideograph with the given number. -/
def ideograph? (digits : List Char) : Option Nat :=
  (number? digits).filter ideographs.has

/-- The character of a numbered class with the given name. -/
def numbered? (name : List Char) : Option Nat :=
  numbered.findSome? fun (start, members) => do
    let digits ← after? start name
    if digits.head? == some '0' then none else (number? digits).filter members.has

end CharName

open CharName in
/-- The character with the given name. -/
def charNamed? (name : String) : Option Nat :=
  match after? "HANGUL SYLLABLE " name.toList, after? "CJK UNIFIED IDEOGRAPH-" name.toList with
  | some letters, _ => syllable? letters
  | none, some digits => ideograph? digits
  | none, none =>
    let name := name.map Char.toUpper
    (numbered? name.toList).or (runs.findSome? (·.find? (name.splitOn " ")))

end SecretScan.Text

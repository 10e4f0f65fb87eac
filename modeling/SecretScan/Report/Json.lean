import SecretScan.Text.Quoted

/-!
# Written records

Records, lists, texts and numbers in the usual exchange format, every member on a
line of its own and two blanks deeper than what holds it. Only ASCII characters
are written; a character beyond the basic plane becomes a pair of units.
-/

namespace SecretScan.Report

/-- A value of the exchange format. -/
inductive Json where
  | text (s : String)
  | number (n : Int)
  | list (items : List Json)
  | record (fields : List (String × Json))
deriving Repr

namespace Json

/-- A unit of sixteen bits. -/
def unit (n : Nat) : List Char := ['\\', 'u'] ++ Text.hexDigits n 4

/-- The written form of a character. -/
def escape (c : Char) : List Char :=
  match c with
  | '"' => ['\\', '"']
  | '\\' => ['\\', '\\']
  | '\n' => ['\\', 'n']
  | '\r' => ['\\', 'r']
  | '\t' => ['\\', 't']
  | '\x08' => ['\\', 'b']
  | '\x0c' => ['\\', 'f']
  | _ =>
    let n := c.toNat
    if 0x20 ≤ n && n < 0x7F then [c]
    else if n < 0x10000 then unit n
    else unit (0xD800 + (n - 0x10000) / 0x400) ++ unit (0xDC00 + (n - 0x10000) % 0x400)

/-- The written form of a text. -/
def quote (s : String) : String :=
  String.ofList ('"' :: s.toList.flatMap escape ++ ['"'])

/-- The start of a line at a depth. -/
def indent (depth : Nat) : String :=
  String.ofList ('\n' :: List.replicate (2 * depth) ' ')

mutual

/-- The written form of a value at a depth. -/
def render (depth : Nat) : Json → String
  | text s => quote s
  | number n => toString n
  | list [] => "[]"
  | list (v :: rest) =>
    "[" ++ indent (depth + 1) ++ render (depth + 1) v ++ renderItems (depth + 1) rest ++
      indent depth ++ "]"
  | record [] => "\x7b\x7d"
  | record ((k, v) :: rest) =>
    "\x7b" ++ indent (depth + 1) ++ quote k ++ ": " ++ render (depth + 1) v ++
      renderFields (depth + 1) rest ++ indent depth ++ "\x7d"

/-- The further items of a list. -/
def renderItems (depth : Nat) : List Json → String
  | [] => ""
  | v :: rest => "," ++ indent depth ++ render depth v ++ renderItems depth rest

/-- The further fields of a record. -/
def renderFields (depth : Nat) : List (String × Json) → String
  | [] => ""
  | (k, v) :: rest =>
    "," ++ indent depth ++ quote k ++ ": " ++ render depth v ++ renderFields depth rest

end

end Json

end SecretScan.Report

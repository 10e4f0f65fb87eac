import SecretScan.Yaml.FloatValue
import SecretScan.Yaml.Time

/-!
# Values

What a document says. Mappings keep their fields in the order of the document, and
a collection that contains itself is cut off where it comes back to itself.

A value has two texts: `text` is the value itself, and `shown` is what stands for it
inside a collection, where texts are quoted.
-/

namespace SecretScan.Yaml

/-- The kinds of values that other values are inside of. -/
inductive CollectionKind where
  | list
  | pair
  | map
  | set
deriving DecidableEq, Repr

/-- A value. -/
inductive Value where
  | null
  | bool (b : Bool)
  | int (n : Int)
  | float (x : FloatValue)
  | text (s : String)
  | bytes (bs : List UInt8)
  | day (d : Day)
  | moment (m : Moment)
  | list (items : List Value)
  | pair (first second : Value)
  | map (fields : List (Value × Value))
  | set (items : List Value)
  /-- A collection inside itself. -/
  | again (kind : CollectionKind)
deriving Repr

namespace Value

/-- Whether a value counts as true: nothing, zero and what is empty do not. -/
def isTrue : Value → Bool
  | null => false
  | bool b => b
  | int n => n != 0
  | float x => x.isTrue
  | text s => s != ""
  | bytes bs => !bs.isEmpty
  | day _ | moment _ => true
  | list items => !items.isEmpty
  | pair _ _ => true
  | map fields => !fields.isEmpty
  | set items => !items.isEmpty
  | again _ => true

/-- The number that a value is equal to, if it is a number: truth values are. -/
def number? : Value → Option (Int ⊕ FloatValue)
  | bool b => some (.inl (if b then 1 else 0))
  | int n => some (.inl n)
  | float x =>
    match x.whole? with
    | some n => some (.inl n)
    | none => some (.inr x)
  | _ => none

/-- The instant of a moment in millionths of a second, up to a constant. -/
def instant (m : Moment) : Int :=
  let y := m.day.year - 1
  let monthDays := (List.range (m.day.month - 1)).foldl
    (fun sum k => sum + Day.daysIn m.day.year (k + 1)) 0
  let days : Nat := y * 365 + y / 4 - y / 100 + y / 400 + monthDays + m.day.day
  let seconds : Int := ((days * 24 + m.hour) * 60 + m.minute) * 60 + m.second
  (seconds - m.offset.getD 0) * 1000000 + m.micro

/-- Whether two values are the same key. Numbers are the same when they are equal,
whatever their kinds, and moments with offsets when they are the same instant. What is
no number differs from itself. -/
def sameKey (a b : Value) : Bool :=
  match number? a, number? b with
  | some (.inr .nan), some _ => false
  | some x, some y => x == y
  | none, none =>
    match a, b with
    | null, null => true
    | text s, text t => s == t
    | bytes s, bytes t => s == t
    | day d, day e => d == e
    | moment m, moment n => m.offset.isSome == n.offset.isSome && instant m == instant n
    | _, _ => false
  | _, _ => false

/-- What is under a key that is a text. -/
def under? {α : Type} (name : String) (fields : List (Value × α)) : Option α :=
  (fields.find? fun (k, _) => sameKey k (text name)).map (·.2)

/-- The value of a field whose key is a text. -/
def field? (name : String) : Value → Option Value
  | map fields => under? name fields
  | _ => none

/-! ## Texts -/

/-- What is said about a number with too many digits to be written. -/
def tooLongToWrite : String :=
  s!"Exceeds the limit ({Text.decimalLimit} digits) for integer string conversion; " ++
    "use sys.set_int_max_str_digits() to increase the limit"

/-- The digits of a whole number, unless there are too many. -/
def intText (n : Int) : Except String String :=
  if Nat.pow 10 Text.decimalLimit ≤ n.natAbs then .error tooLongToWrite else .ok (toString n)

/-- The written form of a byte between quotes. -/
def byteText (quote : Char) (b : UInt8) : List Char :=
  let c := Char.ofNat b.toNat
  if c == quote || c == '\\' then ['\\', c]
  else if c == '\t' then ['\\', 't']
  else if c == '\n' then ['\\', 'n']
  else if c == '\r' then ['\\', 'r']
  else if 0x20 ≤ b.toNat && b.toNat < 0x7F then [c]
  else ['\\', 'x'] ++ Text.hexDigits b.toNat 2

/-- The written form of bytes. -/
def bytesText (bs : List UInt8) : String :=
  let q := Text.quoteFor (bs.map fun b => Char.ofNat b.toNat)
  String.ofList ('b' :: q :: bs.flatMap (byteText q) ++ [q])

/-- Where a collection comes back to itself. -/
def againText : CollectionKind → String
  | .list => "[...]"
  | .pair => "(...)"
  | .map => "\x7b...\x7d"
  | .set => "set(...)"

mutual

/-- What stands for a value inside a collection. -/
def shown : Value → Except String String
  | null => .ok "None"
  | bool b => .ok (if b then "True" else "False")
  | int n => intText n
  | float x => .ok x.text
  | text s => .ok (Text.quoted s)
  | bytes bs => .ok (bytesText bs)
  | day d => .ok d.shown
  | moment m => .ok m.shown
  | list items => do return "[" ++ (← shownItems items) ++ "]"
  | pair a b => do return "(" ++ (← shown a) ++ ", " ++ (← shown b) ++ ")"
  | map fields => do return "\x7b" ++ (← shownFields fields) ++ "\x7d"
  | set [] => .ok "set()"
  | set (v :: rest) => do return "\x7b" ++ (← shown v) ++ (← shownMore rest) ++ "\x7d"
  | again kind => .ok (againText kind)

/-- Items with commas between them. -/
def shownItems : List Value → Except String String
  | [] => .ok ""
  | v :: rest => do return (← shown v) ++ (← shownMore rest)

/-- Further items, each after a comma. -/
def shownMore : List Value → Except String String
  | [] => .ok ""
  | v :: rest => do return ", " ++ (← shown v) ++ (← shownMore rest)

/-- Fields with commas between them. -/
def shownFields : List (Value × Value) → Except String String
  | [] => .ok ""
  | (k, v) :: rest => do
    let field := (← shown k) ++ ": " ++ (← shown v)
    let more ← shownFields rest
    return if more = "" then field else field ++ ", " ++ more

end

/-- The text of a value. Only the number of its digits can stand in the way. -/
def toText : Value → Except String String
  | text s => .ok s
  | day d => .ok d.text
  | moment m => .ok m.text
  | v => shown v

end Value

end SecretScan.Yaml

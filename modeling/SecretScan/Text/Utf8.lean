/-!
# Bytes and characters

The usual encoding of characters as one to four bytes. Decoding is strict: each
character in as few bytes as it needs, no halves of characters, nothing beyond the
last code point.
-/

namespace SecretScan.Text

/-- The bytes of a character. -/
def encodeChar (c : Char) : List UInt8 :=
  let n := c.toNat
  if n < 0x80 then [n.toUInt8]
  else if n < 0x800 then [(0xC0 + n / 0x40).toUInt8, (0x80 + n % 0x40).toUInt8]
  else if n < 0x10000 then
    [(0xE0 + n / 0x1000).toUInt8, (0x80 + n / 0x40 % 0x40).toUInt8, (0x80 + n % 0x40).toUInt8]
  else
    [(0xF0 + n / 0x40000).toUInt8, (0x80 + n / 0x1000 % 0x40).toUInt8,
      (0x80 + n / 0x40 % 0x40).toUInt8, (0x80 + n % 0x40).toUInt8]

/-- The bytes of a text. -/
def encodeUtf8 (s : List Char) : List UInt8 := s.flatMap encodeChar

/-- The six bits of a byte that goes on with a character. -/
def continuation? (b : UInt8) : Option Nat :=
  if 0x80 ≤ b.toNat && b.toNat < 0xC0 then some (b.toNat - 0x80) else none

/-- The character with a code point of at least `least`. -/
def codePoint? (least n : Nat) : Option Char :=
  if least ≤ n && n.isValidChar then some (Char.ofNat n) else none

/-- The text that bytes stand for, if they stand for one. -/
def decodeUtf8 : List UInt8 → Option (List Char)
  | [] => some []
  | a :: rest =>
    let n := a.toNat
    if n < 0x80 then (decodeUtf8 rest).map (Char.ofNat n :: ·)
    else if n < 0xC0 then none
    else if n < 0xE0 then
      match rest with
      | b :: rest =>
        match continuation? b with
        | some x =>
          match codePoint? 0x80 ((n - 0xC0) * 0x40 + x), decodeUtf8 rest with
          | some c, some s => some (c :: s)
          | _, _ => none
        | none => none
      | [] => none
    else if n < 0xF0 then
      match rest with
      | b :: b' :: rest =>
        match continuation? b, continuation? b' with
        | some x, some y =>
          match codePoint? 0x800 (((n - 0xE0) * 0x40 + x) * 0x40 + y), decodeUtf8 rest with
          | some c, some s => some (c :: s)
          | _, _ => none
        | _, _ => none
      | _ => none
    else if n < 0xF8 then
      match rest with
      | b :: b' :: b'' :: rest =>
        match continuation? b, continuation? b', continuation? b'' with
        | some x, some y, some z =>
          match codePoint? 0x10000 ((((n - 0xF0) * 0x40 + x) * 0x40 + y) * 0x40 + z),
              decodeUtf8 rest with
          | some c, some s => some (c :: s)
          | _, _ => none
        | _, _, _ => none
      | _ => none
    else none

end SecretScan.Text

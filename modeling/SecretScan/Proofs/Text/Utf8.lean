import SecretScan.Text.Utf8

/-!
# Bytes are read as they were written

The first byte of a character says how many there are, and the others carry six bits each. So
decoding takes exactly the bytes of the first character and goes on with the rest.
-/

namespace SecretScan.Text

theorem toNat_toUInt8 {n : Nat} (h : n < 0x100) : n.toUInt8.toNat = n := by
  rw [Nat.toUInt8, UInt8.toNat_ofNat', Nat.mod_eq_of_lt h]

theorem continuation?_byte {x : Nat} (h : x < 0x40) :
    continuation? (0x80 + x).toUInt8 = some x := by
  rw [continuation?, toNat_toUInt8 (by omega), if_pos (by simp; omega)]
  simp

theorem codePoint?_toNat {least n : Nat} {c : Char} (hn : c.toNat = n) (h : least ≤ n) :
    codePoint? least n = some c := by
  have hvalid : c.toNat.isValidChar := c.valid
  rw [hn] at hvalid
  rw [codePoint?, if_pos (by simpa [h] using hvalid), ← hn, Char.ofNat_toNat]

theorem decodeUtf8_two {a x : Nat} {c : Char} (ha : a < 0x20) (hx : x < 0x40)
    (hc : codePoint? 0x80 (a * 0x40 + x) = some c) (bytes : List UInt8) :
    decodeUtf8 ((0xC0 + a).toUInt8 :: (0x80 + x).toUInt8 :: bytes) =
      (decodeUtf8 bytes).map (c :: ·) := by
  have hlead : (0xC0 + a).toUInt8.toNat = 0xC0 + a := toNat_toUInt8 (by omega)
  rw [decodeUtf8.eq_def]
  simp only [hlead, continuation?_byte hx, Nat.add_sub_cancel_left, hc]
  rw [if_neg (by omega), if_neg (by omega), if_pos (by omega)]
  cases decodeUtf8 bytes <;> rfl

theorem decodeUtf8_three {a x y : Nat} {c : Char} (ha : a < 0x10) (hx : x < 0x40) (hy : y < 0x40)
    (hc : codePoint? 0x800 ((a * 0x40 + x) * 0x40 + y) = some c) (bytes : List UInt8) :
    decodeUtf8 ((0xE0 + a).toUInt8 :: (0x80 + x).toUInt8 :: (0x80 + y).toUInt8 :: bytes) =
      (decodeUtf8 bytes).map (c :: ·) := by
  have hlead : (0xE0 + a).toUInt8.toNat = 0xE0 + a := toNat_toUInt8 (by omega)
  rw [decodeUtf8.eq_def]
  simp only [hlead, continuation?_byte hx, continuation?_byte hy, Nat.add_sub_cancel_left, hc]
  rw [if_neg (by omega), if_neg (by omega), if_neg (by omega), if_pos (by omega)]
  cases decodeUtf8 bytes <;> rfl

theorem decodeUtf8_four {a x y z : Nat} {c : Char} (ha : a < 0x8) (hx : x < 0x40) (hy : y < 0x40)
    (hz : z < 0x40) (hc : codePoint? 0x10000 (((a * 0x40 + x) * 0x40 + y) * 0x40 + z) = some c)
    (bytes : List UInt8) :
    decodeUtf8 ((0xF0 + a).toUInt8 :: (0x80 + x).toUInt8 :: (0x80 + y).toUInt8 ::
      (0x80 + z).toUInt8 :: bytes) = (decodeUtf8 bytes).map (c :: ·) := by
  have hlead : (0xF0 + a).toUInt8.toNat = 0xF0 + a := toNat_toUInt8 (by omega)
  rw [decodeUtf8.eq_def]
  simp only [hlead, continuation?_byte hx, continuation?_byte hy, continuation?_byte hz,
    Nat.add_sub_cancel_left, hc]
  rw [if_neg (by omega), if_neg (by omega), if_neg (by omega), if_neg (by omega),
    if_pos (by omega)]
  cases decodeUtf8 bytes <;> rfl

theorem decodeUtf8_encodeChar (c : Char) (bytes : List UInt8) :
    decodeUtf8 (encodeChar c ++ bytes) = (decodeUtf8 bytes).map (c :: ·) := by
  have hbound : c.toNat < 0x110000 := by
    have hvalid : c.toNat.isValidChar := c.valid
    rw [Nat.isValidChar] at hvalid
    omega
  rw [encodeChar]
  split
  · next h =>
      rw [List.singleton_append, decodeUtf8.eq_def]
      simp only [toNat_toUInt8 (show c.toNat < 0x100 by omega), Char.ofNat_toNat]
      rw [if_pos h]
  · split
    · next h =>
        have hc : codePoint? 0x80 (c.toNat / 0x40 * 0x40 + c.toNat % 0x40) = some c :=
          codePoint?_toNat (by omega) (by omega)
        exact decodeUtf8_two (by omega) (by omega) hc bytes
    · split
      · next h =>
          have hc : codePoint? 0x800 ((c.toNat / 0x1000 * 0x40 + c.toNat / 0x40 % 0x40) * 0x40 +
              c.toNat % 0x40) = some c := codePoint?_toNat (by omega) (by omega)
          exact decodeUtf8_three (by omega) (by omega) (by omega) hc bytes
      · have hc : codePoint? 0x10000 (((c.toNat / 0x40000 * 0x40 + c.toNat / 0x1000 % 0x40) * 0x40 +
            c.toNat / 0x40 % 0x40) * 0x40 + c.toNat % 0x40) = some c :=
          codePoint?_toNat (by omega) (by omega)
        exact decodeUtf8_four (by omega) (by omega) (by omega) (by omega) hc bytes

/-- A text is read from its bytes. -/
theorem decodeUtf8_encodeUtf8 (s : List Char) : decodeUtf8 (encodeUtf8 s) = some s := by
  induction s with
  | nil => rfl
  | cons c s ih =>
      rw [encodeUtf8, List.flatMap_cons, decodeUtf8_encodeChar]
      exact congrArg (Option.map (c :: ·)) ih

end SecretScan.Text

import SecretScan.Text.Quoted
import SecretScan.Text.Utf8

/-!
# Bytes that are no text

The first place at which bytes stop being a text, and the reason: a byte that begins no
character, a byte that does not go on with one, or an end in the middle of one. Some
first bytes narrow down what may follow, so that each character is written in one way.
-/

namespace SecretScan.Text

/-- Why bytes are no character. -/
inductive Utf8Problem where
  | invalidStart
  | invalidContinuation
  | unexpectedEnd
deriving DecidableEq, Repr

/-- Bytes that are no character: where they are, how many, and the first of them. -/
structure Utf8Fault where
  position : Nat
  length : Nat
  byte : UInt8
  problem : Utf8Problem
deriving DecidableEq, Repr

/-- The wording of a problem. -/
def Utf8Problem.message : Utf8Problem → String
  | invalidStart => "invalid start byte"
  | invalidContinuation => "invalid continuation byte"
  | unexpectedEnd => "unexpected end of data"

/-- The wording of a fault. -/
def Utf8Fault.message (f : Utf8Fault) : String :=
  let place :=
    if f.length = 1 then
      "byte 0x" ++ String.ofList (hexDigits f.byte.toNat 2) ++ " in position " ++
        toString f.position
    else
      "bytes in position " ++ toString f.position ++ "-" ++ toString (f.position + f.length - 1)
  "'utf-8' codec can't decode " ++ place ++ ": " ++ f.problem.message

/-- How many bytes go on with a character, given how many are needed and the bounds of the
first of them. -/
def goingOn (low high : Nat) : Nat → List UInt8 → Nat
  | needed + 1, b :: rest =>
    if low ≤ b.toNat && b.toNat ≤ high then goingOn 0x80 0xBF needed rest + 1 else 0
  | _, _ => 0

/-- The least value of the byte after a first byte. -/
def leastNext (first : Nat) : Nat :=
  if first = 0xE0 then 0xA0 else if first = 0xF0 then 0x90 else 0x80

/-- The greatest value of the byte after a first byte. -/
def greatestNext (first : Nat) : Nat :=
  if first = 0xED then 0x9F else if first = 0xF4 then 0x8F else 0xBF

/-- How many bytes have to follow a first byte, if it is one. -/
def following? (first : Nat) : Option Nat :=
  if first < 0x80 then some 0
  else if first < 0xC2 then none
  else if first < 0xE0 then some 1
  else if first < 0xF0 then some 2
  else if first < 0xF5 then some 3
  else none

/-- The first bytes that are no character, from a position on; some bytes are yet to be
passed over. -/
def faultFrom? (position : Nat) : Nat → List UInt8 → Option Utf8Fault
  | _, [] => none
  | skip + 1, _ :: rest => faultFrom? (position + 1) skip rest
  | 0, b :: rest =>
    let first := b.toNat
    match following? first with
    | none => some ⟨position, 1, b, .invalidStart⟩
    | some needed =>
      let good := goingOn (leastNext first) (greatestNext first) needed rest
      if good = needed then faultFrom? (position + 1) needed rest
      else if good = rest.length then some ⟨position, good + 1, b, .unexpectedEnd⟩
      else some ⟨position, good + 1, b, .invalidContinuation⟩

/-- The first bytes that are no character. -/
def utf8Fault? (bytes : List UInt8) : Option Utf8Fault := faultFrom? 0 0 bytes

end SecretScan.Text

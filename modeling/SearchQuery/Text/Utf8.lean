/-
  Bytes as text, by the encoding UTF-8.

  A first byte says how many bytes make a character; each further byte of it lies in a range that keeps
  out what has a shorter form, surrogates, and what is beyond the last character.  Where bytes make no
  character, the fault covers the first byte and those further ones that were in their range.
-/
import SearchQuery.Text.Digit
import SearchQuery.Text.Quoted

namespace SearchQuery.Text.Utf8

/-- Why bytes are no text. -/
inductive Reason where
  | badStart
  | badContinuation
  | endOfData
  deriving DecidableEq, Repr

/-- Where bytes are no text: the bytes at fault, and how many are before them. -/
structure Fault where
  bytes : List UInt8
  position : Nat
  reason : Reason
  deriving DecidableEq, Repr

/-- The text of a reason. -/
def Reason.message : Reason → Text
  | .badStart => "invalid start byte"
  | .badContinuation => "invalid continuation byte"
  | .endOfData => "unexpected end of data"

/-- The text of a fault. -/
def Fault.message (f : Fault) : Text :=
  let place : Text := match f.bytes with
    | [b] => "byte 0x".toList ++ hex 2 b.toNat ++ " in position ".toList ++ ofNat f.position
    | bs => "bytes in position ".toList ++ ofNat f.position ++ '-' :: ofNat (f.position + bs.length - 1)
  "'utf-8' codec can't decode ".toList ++ place ++ ": ".toList ++ f.reason.message

/-- The ranges of the bytes behind a first byte, which is one that can begin a character. -/
def continuations? (b : Nat) : Option (List (Nat × Nat)) :=
  let any := (0x80, 0xBF)
  if b < 0x80 then some []
  else if 0xC2 ≤ b && b ≤ 0xDF then some [any]
  else if b = 0xE0 then some [(0xA0, 0xBF), any]
  else if b = 0xED then some [(0x80, 0x9F), any]
  else if 0xE1 ≤ b && b ≤ 0xEF then some [any, any]
  else if b = 0xF0 then some [(0x90, 0xBF), any, any]
  else if 0xF1 ≤ b && b ≤ 0xF3 then some [any, any, any]
  else if b = 0xF4 then some [(0x80, 0x8F), any, any]
  else none

/-- The bits of a first byte that belong to the number of the character. -/
def leadBits (b : Nat) : Nat :=
  if b < 0x80 then b else if b < 0xE0 then b % 32 else if b < 0xF0 then b % 16 else b % 8

/-- The number of a character from its bits so far and its further bytes; or why and behind how many
    bytes there is none. -/
def continued (bits taken : Nat) : List (Nat × Nat) → List UInt8 → Except (Reason × Nat) Nat
  | [], _ => .ok bits
  | _ :: _, [] => .error (.endOfData, taken)
  | (low, high) :: ranges, b :: bs =>
    if low ≤ b.toNat && b.toNat ≤ high then
      continued (bits * 64 + b.toNat % 64) (taken + 1) ranges bs
    else .error (.badContinuation, taken)

/-- The text that bytes stand for behind others, with `fuel` bounding their number. -/
def decodeFrom : Nat → Nat → List UInt8 → Except Fault Text
  | 0, _, _ => .ok []
  | _ + 1, _, [] => .ok []
  | fuel + 1, position, b :: bs =>
    match continuations? b.toNat with
    | none => .error ⟨[b], position, .badStart⟩
    | some ranges =>
      match continued (leadBits b.toNat) 1 ranges bs with
      | .error (reason, taken) => .error ⟨(b :: bs).take taken, position, reason⟩
      | .ok n => do
        let t ← decodeFrom fuel (position + 1 + ranges.length) (bs.drop ranges.length)
        return Char.ofNat n :: t

/-- The text that bytes stand for. -/
def decode (bytes : List UInt8) : Except Fault Text := decodeFrom bytes.length 0 bytes

example : (decode [0xE2, 0x82, 0xAC, 0x61]).toOption = some "€a".toList := by decide +kernel
example : (decode [0x61, 0xED, 0xA0, 0x80]).mapError Fault.message
    = .error "'utf-8' codec can't decode byte 0xed in position 1: invalid continuation byte".toList := by
  rfl

end SearchQuery.Text.Utf8

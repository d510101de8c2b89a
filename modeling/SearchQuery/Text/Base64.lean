/-
  Bytes as text of 64 characters.

  Each character stands for six bits, so four of them make three bytes.  Equals signs fill up the last four;
  from there on the rest of the text does not count.  Any other character does not count either.
-/
import SearchQuery.Text.Digit

namespace SearchQuery.Text.Base64

/-- Why a text does not stand for bytes. -/
inductive Fault where
  /-- the last four characters are not filled up -/
  | unfilled
  /-- a single character is left over; all that count are counted -/
  | leftOver (characters : Nat)
  deriving DecidableEq, Repr

/-- The text of a fault. -/
def Fault.message : Fault → Text
  | .unfilled => "Incorrect padding"
  | .leftOver characters =>
    "Invalid base64-encoded string: number of data characters (".toList ++ ofNat characters
      ++ ") cannot be 1 more than a multiple of 4".toList

/-- The six bits that a character stands for. -/
def bits? (c : Char) : Option Nat :=
  if 'A' ≤ c && c ≤ 'Z' then some (c.toNat - 65)
  else if 'a' ≤ c && c ≤ 'z' then some (c.toNat - 71)
  else if '0' ≤ c && c ≤ '9' then some (c.toNat + 4)
  else if c = '+' then some 62
  else if c = '/' then some 63
  else none

/-- The values that count, and whether the last four are filled up.  `values` are those read so far, last
    one first, and `fills` the equals signs behind the last of them. -/
def collect : List Nat → Nat → Text → List Nat × Bool
  | values, _, [] => (values.reverse, values.length % 4 = 0)
  | values, fills, c :: t =>
    let inFour := values.length % 4
    if c = '=' then
      if 2 ≤ inFour then
        if 4 ≤ inFour + fills + 1 then (values.reverse, true) else collect values (fills + 1) t
      else collect values fills t
    else match bits? c with
      | some n => collect (n :: values) 0 t
      | none => collect values fills t

/-- The bytes that values stand for. -/
def bytes : List Nat → List UInt8
  | a :: b :: rest =>
    UInt8.ofNat (a * 4 + b / 16) :: match rest with
      | [] => []
      | c :: rest =>
        UInt8.ofNat (b % 16 * 16 + c / 4) :: match rest with
          | [] => []
          | d :: rest => UInt8.ofNat (c % 4 * 64 + d) :: bytes rest
  | _ => []

/-- The bytes that a text stands for. -/
def decode (t : Text) : Except Fault (List UInt8) :=
  let (values, filled) := collect [] 0 t
  if filled then .ok (bytes values)
  else if values.length % 4 = 1 then .error (.leftOver values.length)
  else .error .unfilled

example : (decode "YWJj ZA==").toOption = some [97, 98, 99, 100] := by decide +kernel
example : decode "YWI" = .error .unfilled ∧ decode "YWJjZ" = .error (.leftOver 5) := by
  constructor <;> rfl

end SearchQuery.Text.Base64

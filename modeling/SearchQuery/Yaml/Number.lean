/-
  Numbers in YAML texts.

  Underscores do not count, and a sign may stand in front.

  1. **Integers** — to the base 10, behind `0b` to the base 2, behind `0x` to the base 16, behind another
     zero to the base 8, and with colons between the places to the base 60.
  2. **Numbers of double precision** — as numerals are, or one of two names, or with colons between the
     places to the base 60; the places are added one by one from the last, each sum and product rounded.
-/
import SearchQuery.Double.Arithmetic
import SearchQuery.Double.Numeral
import SearchQuery.Scalar
import SearchQuery.Text.Lowercase
import SearchQuery.Yaml.Fault

namespace SearchQuery.Yaml

/-- A text without its underscores. -/
def withoutUnderscores (t : Text) : Text := t.filter (· != '_')

/-- Whether a number is negative, and what is left of it without its sign; it must not be empty. -/
def signed : Text → Except Refusal (Bool × Text)
  | [] => .error (.breakdown .emptyNumber)
  | '-' :: t => .ok (true, t)
  | '+' :: t => .ok (false, t)
  | t => .ok (false, t)

/-! ## Integers -/

/-- The value of a digit to the base 16. -/
def digit? (c : Char) : Option Nat :=
  if '0' ≤ c && c ≤ '9' then some (c.toNat - '0'.toNat)
  else if 'a' ≤ c && c ≤ 'f' then some (c.toNat - 'a'.toNat + 10)
  else if 'A' ≤ c && c ≤ 'F' then some (c.toNat - 'A'.toNat + 10)
  else none

/-- The letter that stands behind a zero in front of digits to a base. -/
def baseLetter? (base : Nat) : Option Char := [(2, 'b'), (8, 'o'), (16, 'x')].lookup base

/-- Digits without the zero and the letter that may say their base. -/
def withoutBase (base : Nat) (t : Text) : Text :=
  match t with
  | '0' :: c :: rest => if baseLetter? base = some (Numeral.smallLetter c) then rest else t
  | _ => t

/-- The fault of too many digits. -/
def tooManyDigits (count : Nat) : Refusal :=
  .invalid ("Exceeds the limit (".toList ++ Text.ofNat Numeral.maxDigits
    ++ " digits) for integer string conversion: value has ".toList ++ Text.ofNat count
    ++ " digits; use sys.set_int_max_str_digits() to increase the limit".toList)

/-- The fault of a text that is no integer to a base. -/
def noInteger (base : Nat) (raw : Text) : Refusal :=
  .invalid ("invalid literal for int() with base ".toList ++ Text.ofNat base ++ ": ".toList
    ++ (Text.quoted raw).take 200)

/-- The integer to a base that a text without underscores stands for. -/
def integer (base : Nat) (raw : Text) : Except Refusal Int :=
  let (negative, body) := Numeral.takeSign (Numeral.normalize raw)
  let digits := withoutBase base body
  let values := (digits.takeWhile fun c => (digit? c).any (· < base)).filterMap digit?
  if base = 10 && Numeral.maxDigits < values.length then .error (tooManyDigits values.length)
  else if digits.isEmpty || values.length < digits.length then .error (noInteger base raw)
  else
    let n := values.foldl (fun n d => n * base + d) 0
    .ok (if negative then -(n : Int) else n)

/-- The integer that a text without underscores and sign stands for. -/
def unsignedInteger : Text → Except Refusal Int
  | [] => .error (.breakdown .emptyNumber)
  | ['0'] => .ok 0
  | '0' :: 'b' :: d => integer 2 d
  | '0' :: 'x' :: d => integer 16 d
  | '0' :: d => integer 8 ('0' :: d)
  | t =>
    if t.contains ':' then do
      return ((← (Text.pieces ':' t).mapM (integer 10)).foldl (fun n p => n * 60 + p) 0)
    else integer 10 t

/-- The integer that a text stands for. -/
def integerOf (t : Text) : Except Refusal Int := do
  let (negative, t) ← signed (withoutUnderscores t)
  let n ← unsignedInteger t
  return if negative then -n else n

/-! ## Numbers of double precision -/

/-- The number that a place, or a number without places, stands for. -/
def place (raw : Text) : Except Refusal Double :=
  match Numeral.double? raw with
  | some x => .ok x
  | none => .error (.invalid ("could not convert string to float: ".toList ++ Text.quoted raw))

/-- A sum with places added, the last place of the number first; `base` is the value of the first. -/
def addPlaces (sum : Double) (base : Nat) : List Double → Except Refusal Double
  | [] => .ok sum
  | d :: ds =>
    match Double.ofInt base with
    | .infinity _ => .error (.breakdown .hugePlace)
    | b => addPlaces (sum.add (d.multiply b)) (base * 60) ds

/-- The number of double precision that a text stands for. -/
def doubleOf (t : Text) : Except Refusal Scalar := do
  let (negative, t) ← signed (Text.lower (withoutUnderscores t))
  let withSign (x : Double) : Scalar := .number (.double (if negative then x.negate else x))
  if t = ".inf".toList then return withSign (.infinity false)
  else if t = ".nan".toList then return .undefined
  else if t.contains ':' then
    let places ← (Text.pieces ':' t).mapM place
    return withSign (← addPlaces (.finite false 0) 1 places.reverse)
  else return withSign (← place t)

example : (integerOf "-0b1_01").toOption = some (-5) := by decide +kernel
example : (integerOf "1:30").toOption = some 90 ∧ (integerOf "017").toOption = some 15 := by
  decide +kernel
example : integerOf "+0b_" = .error (.invalid "invalid literal for int() with base 2: ''") := by rfl

end SearchQuery.Yaml

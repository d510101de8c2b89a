/-
  Reading numbers.

  Blanks around a numeral do not count: the six of ASCII that move the point of writing, and white
  space beyond ASCII.  Digits may be of any script.  A single underscore may stand between two
  digits.

  1. **Whole numbers** — an optional sign and digits, 4300 at most.
  2. **Numbers of double precision** — an optional sign, then either a name of infinity or of the
     number that is none, or digits with an optional point among or around them and an optional
     exponent.
-/
import SearchQuery.Double.Basic
import SearchQuery.Text.Blank
import SearchQuery.Text.Digit

namespace SearchQuery.Numeral

/-! ## Blanks, digits and underscores -/

/-- Whether a blank may stand around a numeral. -/
def isSpace (c : Char) : Bool :=
  if c.toNat < 128 then (9 ≤ c.toNat && c.toNat ≤ 13) || c == ' ' else Text.isBlankChar c

/-- A text without the blanks around it and with its digits in ASCII. -/
def normalize (t : Text) : Text :=
  let t := ((t.dropWhile isSpace).reverse.dropWhile isSpace).reverse
  t.map fun c => match Text.digitValue? c with
    | some d => Text.digitChar d
    | none => c

/-- Whether a character is a digit in ASCII. -/
def isDigit (c : Char) : Bool := '0' ≤ c && c ≤ '9'

/-- A text without its underscores, each of which must stand between two digits. -/
def dropUnderscores (previous : Option Char) : Text → Option Text
  | [] => if previous = some '_' then none else some []
  | '_' :: t =>
    if previous.any isDigit then dropUnderscores (some '_') t else none
  | c :: t =>
    if previous = some '_' && !isDigit c then none
    else (dropUnderscores (some c) t).map (c :: ·)

/-- A sign, which may be missing, and the rest. -/
def takeSign : Text → Bool × Text
  | '-' :: t => (true, t)
  | '+' :: t => (false, t)
  | t => (false, t)

/-- The value of digits in ASCII. -/
def digitsValue (t : Text) : Nat := t.foldl (fun n c => 10 * n + (c.toNat - '0'.toNat)) 0

/-! ## Whole numbers -/

/-- The most digits a whole number may have. -/
def maxDigits : Nat := 4300

/-- A whole number. -/
def int? (t : Text) : Option Int := do
  let (negative, body) := takeSign (normalize t)
  let digits ← dropUnderscores none body
  if digits.isEmpty || !digits.all isDigit || maxDigits < digits.length then none
  else
    let n : Int := digitsValue digits
    some (if negative then -n else n)

/-! ## Numbers of double precision -/

/-- A letter of ASCII in its small form. -/
def smallLetter (c : Char) : Char := if 'A' ≤ c && c ≤ 'Z' then Char.ofNat (c.toNat + 32) else c

/-- An exponent mark with its exponent, or nothing at all; anything else is refused. -/
def exponent? : Text → Option Int
  | [] => some 0
  | c :: t =>
    if c = 'e' || c = 'E' then
      let (negative, digits) := takeSign t
      if digits.isEmpty || !digits.all isDigit then none
      else
        let n : Int := digitsValue digits
        some (if negative then -n else n)
    else none

/-- Digits with a point and an exponent. -/
def decimal? (negative : Bool) (t : Text) : Option Double := do
  let whole := t.takeWhile isDigit
  let afterWhole := t.dropWhile isDigit
  let (fraction, rest) := match afterWhole with
    | '.' :: u => (u.takeWhile isDigit, u.dropWhile isDigit)
    | u => ([], u)
  if whole.isEmpty && fraction.isEmpty then none
  else
    let e ← exponent? rest
    some (.ofDecimal negative (digitsValue (whole ++ fraction)) (e - fraction.length))

/-- A number of double precision. -/
def double? (t : Text) : Option Double := do
  let (negative, body) := takeSign (← dropUnderscores none (normalize t))
  let name := body.map smallLetter
  if name = "nan".toList then some .nan
  else if name = "inf".toList || name = "infinity".toList then some (.infinity negative)
  else decimal? negative body

example : int? " 1_000\n" = some 1000 ∧ int? "1__0" = none ∧ int? "+-1" = none := by decide +kernel
example : double? "1e1_0" = some (.ofInt (10 ^ 10)) ∧ double? "1._5" = none := by decide +kernel
example : double? "-Infinity" = some (.infinity true) ∧ double? "." = none := by decide +kernel

end SearchQuery.Numeral

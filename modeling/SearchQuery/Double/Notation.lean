/-
  How a number of double precision is written.

  The digits are the fewest that read back.  The point is written where it stands when the leading
  digit counts from 10^-4 to 10^15, with at least one digit on both sides; beyond, an exponent with
  sign and at least two digits follows the digits.  A zero keeps its sign.
-/
import SearchQuery.Double.Shortest
import SearchQuery.Text.Digit

namespace SearchQuery.Double

/-- The exponents of the leading digit from which, and below which, the point is written where it
    stands. -/
def plainFrom : Int := -4
def plainBelow : Int := 16

/-- An exponent: sign, and at least two digits. -/
def exponentText (e : Int) : Text :=
  let digits := Text.ofNat e.natAbs
  (if e < 0 then '-' else '+') :: (if digits.length < 2 then '0' :: digits else digits)

/-- A decimal with the point where it stands. -/
def plainText (digits : Text) (exponent : Int) : Text :=
  let lead := exponent + digits.length - 1
  if 0 ≤ exponent then digits ++ List.replicate exponent.toNat '0' ++ ['.', '0']
  else if 0 ≤ lead then
    digits.take (lead.toNat + 1) ++ '.' :: digits.drop (lead.toNat + 1)
  else ['0', '.'] ++ List.replicate (-lead - 1).toNat '0' ++ digits

/-- A decimal with one digit before the point and an exponent behind. -/
def scientificText (digits : Text) (exponent : Int) : Text :=
  let lead := exponent + digits.length - 1
  let significand := match digits with
    | [] => []
    | [d] => [d]
    | d :: ds => d :: '.' :: ds
  significand ++ 'e' :: exponentText lead

/-- A positive magnitude. -/
def magnitudeText (units : Nat) : Text :=
  let d := shortest units
  let digits := Text.ofNat d.digits
  let lead := d.exponent + digits.length - 1
  if plainFrom ≤ lead ∧ lead < plainBelow then plainText digits d.exponent
  else scientificText digits d.exponent

/-- A minus sign for a negative number. -/
def signText (negative : Bool) : Text := if negative then ['-'] else []

/-- A number of double precision as it is written. -/
def text : Double → Text
  | .nan => "nan"
  | .infinity s => signText s ++ "inf"
  | .finite s 0 => signText s ++ "0.0"
  | .finite s u => signText s ++ magnitudeText u

example : (ofRatio false 1 10).text = "0.1".toList := by decide +kernel
example : (ofInt (10 ^ 16)).text = "1e+16".toList := by decide +kernel
example : (ofInt (10 ^ 15)).text = "1000000000000000.0".toList := by decide +kernel
example : (ofDecimal false 15 (-8)).text = "1.5e-07".toList := by decide +kernel
example : (ofDecimal false 1 (-4)).text = "0.0001".toList := by decide +kernel
-- A tie between two shortest decimals goes to the even digit.
example : (ofRatio false 1 (2 ^ 25)).text = "2.9802322387695312e-08".toList := by decide +kernel

end SearchQuery.Double

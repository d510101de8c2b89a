/-
  Numbers of double precision, by exact arithmetic.

  Every finite number of double precision is a whole multiple of the smallest positive one, 2^-1074.
  So a magnitude is a natural number of such units, sums and comparisons are those of integers, and
  nothing is rounded except where `ofQuotient` says so.

  1. **Which magnitudes there are** — 53 binary digits: the multiples of `quantum u` near `u` units,
     which is one unit below 2^53 units and doubles with every binary digit beyond.
  2. **Rounding** — `ofQuotient` takes an exact quotient of units to the nearest magnitude, a tie to
     the one whose last binary digit is zero, and to infinity above the largest.
  3. **Order** — `position` places a number on the line; a number that is not one has no position.
-/

namespace SearchQuery

/-- A number of double precision.  A finite magnitude counts in units of 2^-1074. -/
inductive Double where
  | nan
  | infinity (negative : Bool)
  | finite (negative : Bool) (units : Nat)
  deriving DecidableEq, Repr

namespace Double

/-- How many units make one. -/
def unit : Nat := Nat.pow 2 1074

/-- The distance between neighbouring magnitudes from `units` upwards. -/
def quantum (units : Nat) : Nat :=
  if units < Nat.pow 2 53 then 1 else Nat.pow 2 (units.log2 - 52)

/-- The largest finite magnitude. -/
def maxUnits : Nat := (Nat.pow 2 53 - 1) * Nat.pow 2 2045

/-! ## Rounding -/

/-- The natural number nearest to a quotient, a tie going to the even one. -/
def nearest (num den : Nat) : Nat :=
  let q := num / den
  let r := num % den
  if 2 * r < den then q else if den < 2 * r then q + 1 else q + q % 2

/-- The number nearest to `num / den` units. -/
def ofQuotient (negative : Bool) (num den : Nat) : Double :=
  let step := quantum (num / den)
  let units := nearest num (den * step) * step
  if maxUnits < units then .infinity negative else .finite negative units

/-- The number nearest to `num / den`. -/
def ofRatio (negative : Bool) (num den : Nat) : Double := ofQuotient negative (num * unit) den

/-- The number nearest to a fraction. -/
def ofRat (q : Rat) : Double := ofRatio (q.num < 0) q.num.natAbs q.den

/-- The number nearest to an integer. -/
def ofInt (n : Int) : Double := ofRatio (n < 0) n.natAbs 1

/-- The number nearest to `digits * 10 ^ exponent`.  Magnitudes beyond 10^400 and below 10^-400 are
    decided by their size alone, so that no power of ten grows with the exponent. -/
def ofDecimal (negative : Bool) (digits : Nat) (exponent : Int) : Double :=
  if digits = 0 then .finite negative 0
  else if 400 < exponent then .infinity negative
  else if exponent + (digits.log2 / 3 + 1 : Nat) < -400 then .finite negative 0
  else match exponent with
    | .ofNat e => ofRatio negative (digits * Nat.pow 10 e) 1
    | .negSucc e => ofRatio negative digits (Nat.pow 10 (e + 1))

/-- The number one. -/
def one : Double := .finite false unit

/-! ## Arithmetic -/

/-- A number times a positive natural number, rounded. -/
def timesNat (x : Double) (n : Nat) : Double :=
  match x with
  | .nan => .nan
  | .infinity s => .infinity s
  | .finite s u => ofQuotient s (u * n) 1

/-- The signed count of units of a finite number. -/
def signedUnits (negative : Bool) (units : Nat) : Int := if negative then -units else units

/-- The greatest integer not above a finite number. -/
def floor? : Double → Option Int
  | .finite s u => some (Int.fdiv (signedUnits s u) unit)
  | _ => none

/-! ## Order -/

/-- A place on the line of numbers: an exact multiple of the unit, or beyond all of them. -/
inductive Position where
  | below
  | at (units : Int)
  | above
  deriving DecidableEq, Repr

/-- Whether the first place is not to the right of the second. -/
def Position.le : Position → Position → Bool
  | .below, _ => true
  | _, .above => true
  | .at m, .at n => m ≤ n
  | _, _ => false

/-- Whether the first place is to the left of the second. -/
def Position.lt (p q : Position) : Bool := !q.le p

/-- Where a number lies.  Both zeros lie at the same place. -/
def position? : Double → Option Position
  | .nan => none
  | .infinity true => some .below
  | .infinity false => some .above
  | .finite s u => some (.at (signedUnits s u))

/-- Where an integer lies. -/
def positionOfInt (n : Int) : Position := .at (n * unit)

theorem Position.le_refl (p : Position) : p.le p = true := by
  cases p <;> simp [Position.le]

theorem Position.le_trans {p q r : Position} (hpq : p.le q = true) (hqr : q.le r = true) :
    p.le r = true := by
  cases p <;> cases q <;> cases r <;> simp_all [Position.le]
  omega

example : ofDecimal false 1 (-1) = ofRatio false 1 10 := by decide +kernel
example : ofInt (2 ^ 53 + 1) = ofInt (2 ^ 53) := by decide +kernel
example : ofDecimal false 18 307 = .infinity false := by decide +kernel

end Double
end SearchQuery

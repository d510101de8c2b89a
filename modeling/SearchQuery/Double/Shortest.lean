/-
  The fewest decimal digits that still name a number of double precision.

  The reals that round to a number form an interval: from halfway to the neighbour below to halfway
  to the neighbour above, the ends included when the last binary digit of the number is zero.  Below
  a power of two the neighbour is half as far away as above it.

  1. **The test** — `readsBack u d` says whether the decimal `d` lies in the interval of the
     magnitude `u`.  Everything is counted in quarters of a unit, so the ends are whole numbers.
  2. **The search** — with `n = 1, 2, …, 17` digits, the two neighbours of the magnitude on the
     grid of that many digits are tried; the first grid with a hit wins, of two hits the nearer one,
     and of two equally near ones the even one.
-/
import SearchQuery.Double.Basic

namespace SearchQuery.Double

/-- A decimal number, `digits * 10 ^ exponent`. -/
structure Decimal where
  digits : Nat
  exponent : Int
  deriving DecidableEq, Repr

/-! ## The test -/

/-- The ends of the interval of a magnitude, in quarters of a unit. -/
def interval (units : Nat) : Nat × Nat :=
  let step := quantum units
  let narrow := Nat.pow 2 53 ≤ units && units == Nat.pow 2 52 * step
  (4 * units - (if narrow then step else 2 * step), 4 * units + 2 * step)

/-- A decimal compared with a number of quarters of a unit, exactly. -/
def Decimal.compareQuarters (d : Decimal) (quarters : Nat) : Ordering :=
  match d.exponent with
  | .ofNat e => compare (d.digits * Nat.pow 10 e * (4 * unit)) quarters
  | .negSucc e => compare (d.digits * (4 * unit)) (quarters * Nat.pow 10 (e + 1))

/-- Whether a decimal lies among the reals that round to a magnitude. -/
def readsBack (units : Nat) (d : Decimal) : Bool :=
  let (low, high) := interval units
  let even := units / quantum units % 2 == 0
  let atLow := d.compareQuarters low
  let atHigh := d.compareQuarters high
  (atLow == .gt || (even && atLow == .eq)) && (atHigh == .lt || (even && atHigh == .eq))

/-! ## The search -/

/-- Whether a magnitude is below `10 ^ k`. -/
def belowPower (units : Nat) (k : Int) : Bool :=
  match k with
  | .ofNat e => units < Nat.pow 10 e * unit
  | .negSucc e => units * Nat.pow 10 (e + 1) < unit

/-- The first `k` from `start` on, within `fuel` steps, with the magnitude below `10 ^ k`. -/
def scaleFrom : Nat → Nat → Int → Int
  | 0, _, k => k
  | fuel + 1, units, k => if belowPower units k then k else scaleFrom fuel units (k + 1)

/-- The least `k` with the magnitude below `10 ^ k`: the binary logarithm times the logarithm of
    two is a guess from below that is at most a few steps off. -/
def scale (units : Nat) : Int :=
  scaleFrom 5 units (((units.log2 : Int) - 1074) * 30103 / 100000 - 1)

/-- A magnitude over `10 ^ exponent`, as a quotient of natural numbers. -/
def overPower (units : Nat) (exponent : Int) : Nat × Nat :=
  match exponent with
  | .ofNat e => (units, unit * Nat.pow 10 e)
  | .negSucc e => (units * Nat.pow 10 (e + 1), unit)

/-- The better of the two neighbours of a magnitude on the grid `10 ^ exponent`, among those that
    read back. -/
def onGrid? (units : Nat) (exponent : Int) : Option Decimal :=
  let (num, den) := overPower units exponent
  let low : Decimal := ⟨num / den, exponent⟩
  let high : Decimal := ⟨num / den + 1, exponent⟩
  match readsBack units low, readsBack units high with
  | false, false => none
  | true, false => some low
  | false, true => some high
  | true, true => some (if nearest num den = low.digits then low else high)

/-- A decimal with the zeros at the end of its digits moved into the exponent. -/
def Decimal.trimmed : Nat → Decimal → Decimal
  | 0, d => d
  | fuel + 1, d =>
    if d.digits % 10 = 0 then Decimal.trimmed fuel ⟨d.digits / 10, d.exponent + 1⟩ else d

/-- The shortest decimal that reads back as a positive magnitude.  Seventeen digits are always
    enough; the exact value stands behind them. -/
def shortest (units : Nat) : Decimal :=
  let k := scale units
  let found := (List.range 17).findSome? fun (n : Nat) => onGrid? units (k - (n + 1))
  (found.getD ⟨units * Nat.pow 5 1074, -1074⟩).trimmed 1100

example : shortest (unit / 2) = ⟨5, -1⟩ := by decide +kernel
example : shortest 1 = ⟨5, -324⟩ := by decide +kernel

end SearchQuery.Double

/-
  Sums and products of numbers of double precision.

  Both are the exact result, rounded once.  A sum of zeros is the negative zero only if both are
  negative; a product has the sign of its factors.
-/
import SearchQuery.Double.Basic

namespace SearchQuery.Double

/-- A number with the other sign. -/
def negate : Double → Double
  | .nan => .nan
  | .infinity s => .infinity (!s)
  | .finite s u => .finite (!s) u

/-- The sum of two numbers. -/
def add : Double → Double → Double
  | .nan, _ | _, .nan => .nan
  | .infinity s, .infinity t => if s = t then .infinity s else .nan
  | .infinity s, _ | _, .infinity s => .infinity s
  | .finite s u, .finite t v =>
    let sum := signedUnits s u + signedUnits t v
    if sum = 0 then .finite (s && t) 0 else ofQuotient (sum < 0) sum.natAbs 1

/-- The product of two numbers. -/
def multiply : Double → Double → Double
  | .nan, _ | _, .nan => .nan
  | .infinity s, .infinity t => .infinity (s != t)
  | .infinity s, .finite t u | .finite s u, .infinity t => if u = 0 then .nan else .infinity (s != t)
  | .finite s u, .finite t v => ofQuotient (s != t) (u * v) unit

example : add (ofInt 3) (ofInt (-3)) = .finite false 0 := by decide +kernel
example : multiply (ofRatio false 1 10) (ofInt 3) = add (ofRatio false 1 10) (ofRatio false 2 10) := by
  decide +kernel

end SearchQuery.Double

/-
  Boosts: the weight of the clause before.

  A factor lies in 0 < f < 10000000.  It is cut, not rounded, after two decimal places: it is
  multiplied by 100, the fraction is dropped, and the result is divided by 100, each step in the
  arithmetic of the factor.  A factor of exactly 1 says nothing and is not written.
-/
import SearchQuery.Query.Basic

namespace SearchQuery

namespace Boost

/-- Whether a number is a boost factor. -/
def isFactor (f : Number) : Bool := (Number.int 0).lt f && f.lt (.int 10000000)

/-- Refuses a number that is no boost factor. -/
def check (f : Number) : Except QueryError Unit :=
  if isFactor f then .ok () else .error (.invalidBoost f)

/-- Refuses a number that is given and is no boost factor. -/
def checkGiven : Option Number → Except QueryError Unit
  | none => .ok ()
  | some f => check f

/-- The greatest integer not above a hundred times a factor. -/
def hundredfold? : Number → Option Int
  | .flag b => some (b.toNat * 100)
  | .int n => some (n * 100)
  | .double x => (x.timesNat 100).floor?

/-- A factor cut after two decimal places. -/
def cut (f : Number) : Double :=
  match hundredfold? f with
  | some n => .ofRatio (n < 0) n.natAbs 100
  | none => f.toDouble

example : (cut (.double (.ofDecimal false 29 (-2)))).text = "0.28".toList := by decide +kernel
example : (cut (.int 3)).text = "3.0".toList := by decide +kernel

end Boost

/-- Writes a boost behind the last clause, unless the last call wrote none. -/
def Query.writeBoost (q : Query) (f : Number) : Query :=
  if f.equal (.int 1) || !q.succeeded then q
  else q.append [['^'], (Boost.cut f).text, [' ']]

end SearchQuery

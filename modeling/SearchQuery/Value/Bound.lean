/-
  Values as the bounds of ranges.

  The absent value is no bound.  Any other value is one, and is written as it would be as a literal;
  two bounds are compared when both are numbers.
-/
import SearchQuery.Query.Range
import SearchQuery.Value.Shelf

namespace SearchQuery.Value

/-- A value as a bound. -/
def asBound (w : Surroundings) (v : Value) : Bound := ⟨fun own => v.written (w.when own), v.number?⟩

/-- The bound that a value is, unless it is the absent value. -/
def bound (w : Surroundings) (v : Value) : Option Bound :=
  if v.isAbsent then none else some (v.asBound w)

end SearchQuery.Value

/-
  Single clauses.

  A clause may also be written by itself, under a modifier that is used as it is: nothing is checked
  and no default stands in for a missing modifier, without which nothing is written.
-/
import SearchQuery.Query.Call

namespace SearchQuery

/-- A clause to be written by itself. -/
inductive Clause where
  | value (v : Value)
  | range (name : Option Text) (start stop : Value)
  deriving Repr

/-- Writes a clause by itself. -/
def Clause.perform (w : Surroundings) (m : Option Modifier) (c : Clause) : Calling Unit :=
  match m with
  | none => Calling.skip
  | some m =>
    match c with
    | .value v => Calling.put w v m
    | .range name start stop =>
      Calling.write fun q => q.writeRange name (start.asBound w) (stop.asBound w) m

end SearchQuery

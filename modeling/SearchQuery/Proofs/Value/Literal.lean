/-
  Values that are written by their text.

  A value that is neither absent nor a group nor a query becomes one literal.  The definitions treat
  all of these values in one last case; here that case is said once for each definition, so that
  nothing later has to tell a byte array from a number.
-/
import SearchQuery.Value.Shelf

namespace SearchQuery.Value

/-- Whether a value is written by its text: it is not absent, no group and no query. -/
def isLiteral : Value → Bool
  | .scalar .null | .group _ _ | .stream _ | .query _ => false
  | _ => true

variable {v : Value}

theorem isLiteral_scalar {c : Scalar} (hc : c ≠ .null) : (Value.scalar c).isLiteral = true := by
  cases c with
  | null => exact absurd rfl hc
  | _ => rfl

theorem isAbsent_of_isLiteral (hv : v.isLiteral = true) : v.isAbsent = false := by
  unfold isAbsent
  split
  · cases hv
  · rfl

theorem isGroup_of_isLiteral (hv : v.isLiteral = true) : v.isGroup = false := by
  unfold isGroup
  split
  · cases hv
  · cases hv
  · rfl

/-- A literal is blank when its text is. -/
theorem blankWith_of_isLiteral (hv : v.isLiteral = true) (qs : Queries)
    (look : Nat → Shelf → Bool × Shelf) (s : Shelf) :
    v.blankWith qs look s = (Text.isBlank (v.written qs), s) := by
  rw [blankWith.eq_def]
  split
  · cases hv
  · cases hv
  · cases hv
  · cases hv
  · rfl

/-- The term of a literal is its text, or depicts it if the receiver is shown in it. -/
theorem termWith_of_isLiteral (hv : v.isLiteral = true) (w : Surroundings)
    (empty : Nat → Shelf → List Term × Shelf) (s : Shelf) :
    v.termWith w empty s
      = (if v.mentions w.isReceiver then .depiction fun own => v.written (w.when own)
          else .literal (v.written w.toQueries), s) := by
  rw [termWith.eq_def]
  split
  · cases hv
  · cases hv
  · cases hv
  · cases hv
  · rfl

end SearchQuery.Value

/-
  Queries: a text in the making.

  A query holds the text written so far, the modifier that a call takes when it is given none,
  whether the last call wrote anything, and the names of the fields that are open, innermost first.
-/
import SearchQuery.Modifier.Draft
import SearchQuery.Query.Buffer
import SearchQuery.Text.Blank

namespace SearchQuery

/-- A query. -/
structure Query where
  modifier : Modifier := {}
  succeeded : Bool := false
  buffer : Buffer := {}
  openFields : List Text := []
  deriving DecidableEq, Repr

namespace Query

/-- A new query with a default modifier and an initial text. -/
def new (m : Option Modifier) (t : Text) : Query :=
  { modifier := m.getD {}, buffer := .ofText t }

/-- The text written so far. -/
def text (q : Query) : Text := q.buffer.text

/-- The text written so far, which must not be empty. -/
def nonemptyText (q : Query) : Except QueryError Text :=
  if q.text.isEmpty then .error .emptyQuery else .ok q.text

/-- A query with fragments added to its text. -/
def append (q : Query) (ts : List Text) : Query := { q with buffer := q.buffer.append ts }

/-- A query whose last call wrote something. -/
def done (q : Query) : Query := { q with succeeded := true }

/-- A query whose last call wrote nothing. -/
def skipped (q : Query) : Query := { q with succeeded := false }

@[simp] theorem text_new (m : Option Modifier) (t : Text) : (new m t).text = t := by
  simp [new, text]

@[simp] theorem text_append (q : Query) (ts : List Text) :
    (q.append ts).text = q.text ++ ts.flatten := by
  simp [append, text]

@[simp] theorem text_done (q : Query) : q.done.text = q.text := rfl

@[simp] theorem text_skipped (q : Query) : q.skipped.text = q.text := rfl

end Query
end SearchQuery

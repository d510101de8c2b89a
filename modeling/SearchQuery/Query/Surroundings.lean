/-
  What a call knows of the queries around it.

  Values hold queries by their handles only.  What has to be known of a query is its text and its
  default modifier, and, while a call goes on, whether it is the receiver: that one grows while it
  is written.
-/
import SearchQuery.Modifier.Basic
import SearchQuery.Query.Handle

namespace SearchQuery

/-- The text and the default modifier of every query. -/
structure Queries where
  text : Handle → Text
  modifier : Handle → Modifier

/-- The queries around a call. -/
structure Surroundings extends Queries where
  /-- whether a handle leads to the query that receives the call -/
  isReceiver : Handle → Bool

/-- The queries around a call when the text of the receiver is `own`. -/
def Surroundings.when (w : Surroundings) (own : Text) : Queries :=
  ⟨fun h => if w.isReceiver h then own else w.text h, w.modifier⟩

end SearchQuery

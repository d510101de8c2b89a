/-
  Terms: what is to be written into a query.

  Whatever a caller gives ends up as one of six things: nothing, a literal text, a literal text that
  shows the query that is written into, the text of another query, the text of the very query that
  is written into, or a group of terms.  The text of the receiver is not fixed before it is reached,
  as writing goes on until then.
-/
import SearchQuery.Text.Blank

namespace SearchQuery

/-- Something to be written into a query. -/
inductive Term where
  | absent
  | literal (t : Text)
  /-- a literal that depends on the text of the query that is written into -/
  | depiction (shows : Text → Text)
  /-- the text of another query -/
  | embedded (t : Text)
  /-- the text of the query that is written into -/
  | receiver
  | group (members : List Term)

namespace Term

/-- Whether a member of a group is kept, when the text of the receiver is `own`.  A group always
    is, whatever is in it. -/
def survives (own : Text) : Term → Bool
  | .absent => false
  | .literal t | .embedded t => !Text.isBlank t
  | .depiction shows => !Text.isBlank (shows own)
  | .receiver => !Text.isBlank own
  | .group _ => true

end Term
end SearchQuery

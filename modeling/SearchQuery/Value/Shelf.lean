/-
  Streams, and what reading them leaves behind.

  The shelf holds for every stream the members that are still to be read.  Two readers exist:

  1. `Value.isBlank` — is there anything to search for?  It stops at the first member that is not
     blank, so a stream loses the members up to and including that one.
  2. `Value.term` — what is to be written?  It reads every stream to its end.

  Members of a stream may be streams.  A reader of values is given a reader of streams that goes
  one level less deep; as a stream only holds streams that were put on the shelf before it, as many
  levels as there are streams are enough.
-/
import SearchQuery.Query.Term
import SearchQuery.Value.Basic

namespace SearchQuery

/-- The members still to be read, for every stream. -/
abbrev Shelf := List (List Value)

namespace Shelf

/-- The members still to be read from the stream at a place. -/
def rest (s : Shelf) (place : Nat) : List Value := s.getD place []

/-- The shelf with other members to be read from the stream at a place. -/
def put (s : Shelf) (place : Nat) (members : List Value) : Shelf := s.set place members

/-- The shelf with one more stream, and the place of that stream. -/
def add (s : Shelf) (members : List Value) : Nat × Shelf := (s.length, s ++ [members])

end Shelf

namespace Value

/-! ## Is there anything to search for? -/

mutual

/-- Whether a value is blank, given how a stream is looked into. -/
def blankWith (qs : Queries) (look : Nat → Shelf → Bool × Shelf) : Value → Shelf → Bool × Shelf
  | .scalar .null, s => (true, s)
  | .query h, s => ((qs.text h).isEmpty, s)
  | .group _ members, s =>
    let (blank, _, s) := allBlankWith qs look members s
    (blank, s)
  | .stream place, s => look place s
  | v, s => (Text.isBlank (v.written qs), s)

/-- Whether all values are blank, and those that were not looked at. -/
def allBlankWith (qs : Queries) (look : Nat → Shelf → Bool × Shelf) :
    List Value → Shelf → Bool × List Value × Shelf
  | [], s => (true, [], s)
  | v :: vs, s =>
    match blankWith qs look v s with
    | (true, s) => allBlankWith qs look vs s
    | (false, s) => (false, vs, s)

end

/-- Whether a stream, with streams nested `depth` levels deep, is blank.  What was looked at is
    gone from the stream. -/
def lookInto (qs : Queries) : Nat → Nat → Shelf → Bool × Shelf
  | 0, _, s => (true, s)
  | depth + 1, place, s =>
    let (blank, unread, s) := allBlankWith qs (lookInto qs depth) (s.rest place) s
    (blank, s.put place unread)

/-- Whether there is nothing to search for in a value: it is absent, a text of blanks, an empty
    query, or a group of nothing else. -/
def isBlank (qs : Queries) (v : Value) (s : Shelf) : Bool × Shelf :=
  blankWith qs (lookInto qs s.length) v s

/-! ## What is to be written? -/

mutual

/-- What is to be written for a value, given how a stream is emptied. -/
def termWith (w : Surroundings) (empty : Nat → Shelf → List Term × Shelf) :
    Value → Shelf → Term × Shelf
  | .scalar .null, s => (.absent, s)
  | .query h, s => (if w.isReceiver h then .receiver else .embedded (w.text h), s)
  | .group _ members, s =>
    let (ts, s) := termsWith w empty members s
    (.group ts, s)
  | .stream place, s =>
    let (ts, s) := empty place s
    (.group ts, s)
  | v, s =>
    (if v.mentions w.isReceiver then .depiction fun own => v.written (w.when own)
      else .literal (v.written w.toQueries), s)

/-- What is to be written for each of the values. -/
def termsWith (w : Surroundings) (empty : Nat → Shelf → List Term × Shelf) :
    List Value → Shelf → List Term × Shelf
  | [], s => ([], s)
  | v :: vs, s =>
    let (t, s) := termWith w empty v s
    let (ts, s) := termsWith w empty vs s
    (t :: ts, s)

end

/-- Reads a stream, with streams nested `depth` levels deep, to its end. -/
def emptyStream (w : Surroundings) : Nat → Nat → Shelf → List Term × Shelf
  | 0, _, s => ([], s)
  | depth + 1, place, s => termsWith w (emptyStream w depth) (s.rest place) (s.put place [])

/-- What is to be written for a value. -/
def term (w : Surroundings) (v : Value) (s : Shelf) : Term × Shelf :=
  termWith w (emptyStream w s.length) v s

/-- A group that can be read again: a list or a tuple is one, any other group becomes a list. -/
def settled (v : Value) (s : Shelf) : Value × Shelf :=
  match v with
  | .group .set members => (.group .list members, s)
  | .stream place => (.group .list (s.rest place), s.put place [])
  | v => (v, s)

end Value
end SearchQuery

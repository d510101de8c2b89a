/-
  Integers that are too long to be written.

  An integer of more than 4300 digits may not be written.  This comes out only when its text is asked
  for, and a value is looked at and written bit by bit: a look or a clause may break off anywhere in
  it.

  1. **What may be written** — `Value.isWritable` asks it of all that the text of a value shows.
  2. **Looking (`Value.blankBreak?`)** — a look goes from member to member and breaks off at the first
     one that may not be written, unless it has found something before.
  3. **Writing (`Value.break?`)** — a group is gone through once before it is opened, to see which of
     its members are kept, and then its members are written one after the other.  So it is not opened
     if a member of its own may not be written; but if that stands in a group inside of it, then it is
     open already.  A `Remnant` tells what was written up to there.
-/
import SearchQuery.Value.Shelf

namespace SearchQuery

/-! ## What may be written -/

/-- Whether a scalar may be written. -/
def Scalar.isWritable : Scalar → Bool
  | .number n => n.isWritable
  | _ => true

namespace Value

mutual

/-- Whether a value may be written, with all that its text shows. -/
def isWritable : Value → Bool
  | .scalar s => s.isWritable
  | .group _ members => allWritable members
  | .mapping entries => allEntriesWritable entries
  | .byteArray _ | .stream _ | .query _ => true

/-- Whether all values may be written. -/
def allWritable : List Value → Bool
  | [] => true
  | v :: vs => v.isWritable && allWritable vs

/-- Whether the keys and values of all entries may be written. -/
def allEntriesWritable : List (Scalar × Value) → Bool
  | [] => true
  | (k, v) :: es => k.isWritable && v.isWritable && allEntriesWritable es

end

/-! ## Looking -/

mutual

/-- Where a look for something in a value breaks off, if it does, given how a stream is looked into
    and where that breaks off. -/
def blankBreakWith (qs : Queries) (look : Nat → Shelf → Bool × Shelf)
    (breaks : Nat → Shelf → Option Shelf) : Value → Shelf → Option Shelf
  | .group _ members, s => (allBlankBreakWith qs look breaks members s).map (·.2)
  | .stream place, s => breaks place s
  | v, s => if v.isWritable then none else some s

/-- Where a look at values breaks off, if it does, and those that were not looked at. -/
def allBlankBreakWith (qs : Queries) (look : Nat → Shelf → Bool × Shelf)
    (breaks : Nat → Shelf → Option Shelf) : List Value → Shelf → Option (List Value × Shelf)
  | [], _ => none
  | v :: vs, s =>
    match blankBreakWith qs look breaks v s with
    | some s => some (vs, s)
    | none =>
      match blankWith qs look v s with
      | (true, s) => allBlankBreakWith qs look breaks vs s
      | (false, _) => none

end

/-- Where a look into a stream, with streams nested `depth` levels deep, breaks off, if it does.  What
    was looked at is gone from the stream. -/
def lookBreak? (qs : Queries) : Nat → Nat → Shelf → Option Shelf
  | 0, _, _ => none
  | depth + 1, place, s =>
    (allBlankBreakWith qs (lookInto qs depth) (lookBreak? qs depth) (s.rest place) s).map
      fun (unread, s) => s.put place unread

/-- Where the question breaks off if there is anything to search for in a value, if it does. -/
def blankBreak? (qs : Queries) (v : Value) (s : Shelf) : Option Shelf :=
  blankBreakWith qs (lookInto qs s.length) (lookBreak? qs s.length) v s

/-! ## Writing -/

/-- Whether a value keeps the group from being opened that it is a member of. -/
def bars (v : Value) : Bool := !v.isGroup && !v.isWritable

/-- The values behind the first one that keeps a group from being opened, if there is one. -/
def behindBar? : List Value → Option (List Value)
  | [] => none
  | v :: vs => if v.bars then some vs else behindBar? vs

end Value

/-- What was written of a value when writing it broke off. -/
inductive Remnant where
  | nothing
  /-- the opening of a group, the members in front of the one at fault, and what was written of it -/
  | opened (before : List Term) (rest : Remnant)

/-- What was written of the members of a group that has one more in front. -/
def Remnant.behind (t : Term) : Remnant → Remnant
  | .nothing => .nothing
  | .opened before rest => .opened (t :: before) rest

namespace Value

mutual

/-- Where writing a value breaks off, if it does, given how a stream is emptied and where that breaks
    off. -/
def breakWith (w : Surroundings) (empty : Nat → Shelf → List Term × Shelf)
    (breaks : Nat → Shelf → Option (Remnant × Shelf)) : Value → Shelf → Option (Remnant × Shelf)
  | .group _ members, s =>
    match behindBar? members with
    | some _ => some (.nothing, s)
    | none => breakMembersWith w empty breaks members s
  | .stream place, s => breaks place s
  | v, s => if v.isWritable then none else some (.nothing, s)

/-- Where writing the members of a group breaks off that is open, if it does. -/
def breakMembersWith (w : Surroundings) (empty : Nat → Shelf → List Term × Shelf)
    (breaks : Nat → Shelf → Option (Remnant × Shelf)) :
    List Value → Shelf → Option (Remnant × Shelf)
  | [], _ => none
  | v :: vs, s =>
    match breakWith w empty breaks v s with
    | some (rest, s) => some (.opened [] rest, s)
    | none =>
      let (t, s) := termWith w empty v s
      (breakMembersWith w empty breaks vs s).map fun (r, s) => (r.behind t, s)

end

/-- Where emptying a stream, with streams nested `depth` levels deep, breaks off, if it does.  It is
    gone through once before its members are written, and all that was gone through is gone. -/
def streamBreak? (w : Surroundings) : Nat → Nat → Shelf → Option (Remnant × Shelf)
  | 0, _, _ => none
  | depth + 1, place, s =>
    match behindBar? (s.rest place) with
    | some unread => some (.nothing, s.put place unread)
    | none =>
      breakMembersWith w (emptyStream w depth) (streamBreak? w depth) (s.rest place) (s.put place [])

/-- Where writing a value breaks off, if it does: what was written of it, and what is left of the
    streams. -/
def break? (w : Surroundings) (v : Value) (s : Shelf) : Option (Remnant × Shelf) :=
  breakWith w (emptyStream w s.length) (streamBreak? w s.length) v s

end Value
end SearchQuery

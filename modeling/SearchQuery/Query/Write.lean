/-
  Writing terms.

  The clause of a group is `mark(` the clauses of its members `) `.  Its opening is written before
  it is known whether any member writes anything; if the buffer has not grown when all are done,
  the opening is taken back.  Which members are kept is settled before the opening is written.
-/
import SearchQuery.Query.Literal
import SearchQuery.Query.Term

namespace SearchQuery.Query

/-- Writes the text of a query as one clause; an empty one is skipped. -/
def writeEmbedded (q : Query) (t : Text) (m : Modifier) : Query :=
  if t.isEmpty then q.skipped
  else (q.append [m.mark, ['('], t, [')', ' ']]).done

/-- Closes a group that was opened at position `start` and whose members begin at `opened`. -/
def closeGroup (q : Query) (start opened : Nat) : Query :=
  if q.buffer.length = opened then { q with buffer := q.buffer.keep start }.skipped
  else (q.append [[')', ' ']]).done

mutual

/-- Writes a term as one clause. -/
def write (q : Query) (m : Modifier) : Term → Query
  | .absent => q.skipped
  | .literal v => q.writeLiteral v m
  | .depiction shows => q.writeLiteral (shows q.text) m
  | .embedded t => q.writeEmbedded t m
  | .receiver => q.writeEmbedded q.text m
  | .group members =>
    if members.any (Term.survives q.text) then
      let opened := q.append [m.mark, ['(']]
      let written := opened.writeMembers q.text m.element members
      written.closeGroup q.buffer.length opened.buffer.length
    else q.skipped

/-- Writes the members of a group that are kept when the text of the receiver is `own`. -/
def writeMembers (q : Query) (own : Text) (m : Modifier) : List Term → Query
  | [] => q
  | t :: ts =>
    (if t.survives own then q.write m t else q).writeMembers own m ts

end

example : (({} : Query).write {} (.group [.literal "a", .absent, .literal " ", .literal "b"])).text
    = "(+(a) +(b) ) ".toList := by decide +kernel
example : (({} : Query).write {} (.group [.group [.group []]])).text = [] := by decide +kernel

end SearchQuery.Query

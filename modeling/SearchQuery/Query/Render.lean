/-
  The text of a term, said without a buffer.

  `Term.render own m t` is what `t` gives under the modifier `m` when the receiver holds the text
  `own` before it: each clause is put together from the clauses inside it, and a group whose members
  give nothing gives nothing.  The receiver may stand in a group itself; it then shows what was
  written up to that place, so the text in front is passed along from member to member.
-/
import SearchQuery.Query.Literal
import SearchQuery.Query.Term

namespace SearchQuery

/-- The clause of a literal that is not split. -/
def renderWhole (m : Modifier) (v : Text) : Text :=
  if Text.isBlank v then [] else m.mark ++ ['('] ++ m.body v ++ [')', ' ']

/-- The clauses of the tokens of a literal, at half the weight. -/
def renderTokens (m : Modifier) (v : Text) : Text :=
  [' ', '('] ++ (Text.pieces ' ' v).flatMap (renderWhole m.token) ++ [')', '^', '0', '.', '5']

/-- The clause of a literal. -/
def renderLiteral (m : Modifier) (v : Text) : Text :=
  if Text.isBlank v then []
  else
    m.mark ++ ['('] ++ m.body v ++ (if m.splits v then renderTokens m v else []) ++ [')', ' ']

/-- A text as one clause; the empty text gives nothing. -/
def renderClause (m : Modifier) (t : Text) : Text :=
  if t.isEmpty then [] else m.mark ++ ['('] ++ t ++ [')', ' ']

namespace Term

mutual

/-- The clause of a term. -/
def render (own : Text) (m : Modifier) : Term → Text
  | .absent => []
  | .literal v => renderLiteral m v
  | .depiction shows => renderLiteral m (shows own)
  | .embedded t => renderClause m t
  | .receiver => renderClause m own
  | .group members => renderClause m (renderMembers own (own ++ m.mark ++ ['(']) m.element members)

/-- The clauses of the members that were kept when the receiver held the text `kept`, one after the
    other; `own` is what it holds when the first of them is reached. -/
def renderMembers (kept own : Text) (m : Modifier) : List Term → Text
  | [] => []
  | t :: ts =>
    let clause := if t.survives kept then render own m t else []
    clause ++ renderMembers kept (own ++ clause) m ts

end

end Term
end SearchQuery

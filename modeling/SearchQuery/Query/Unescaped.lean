/-
  Text that is written as it is.

  A caller may have text in the search engine's own form.  It is written without escaping, in a
  field if a name is given; an empty text is skipped.
-/
import SearchQuery.Query.Basic

namespace SearchQuery.Query

/-- Writes text as it is, in a field if a name is given. -/
def writeUnescaped (q : Query) (field text : Option Text) (mandatory : Bool) : Query :=
  match text with
  | none | some [] => q.skipped
  | some t =>
    let mark : Text := if mandatory then ['+'] else []
    match field with
    | none => (q.append [mark, t, [' ']]).done
    | some name => (q.append [mark, name, [':', '('], t, [')', ' ']]).done

example : (({} : Query).writeUnescaped (some "f".toList) (some "a OR b".toList) true).text
    = "+f:(a OR b) ".toList := by decide
example : ((({} : Query).writeUnescaped none (some []) true).text) = [] := by decide

end SearchQuery.Query

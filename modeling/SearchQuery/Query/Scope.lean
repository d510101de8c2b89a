/-
  Fields that are opened and closed by hand.

  A field is opened with `mark name:(` and closed with `) `.  As every clause ends in a blank, a
  buffer that ends in an opening parenthesis says that nothing was written into the field; an empty
  phrase then stands for the missing value.
-/
import SearchQuery.Query.Basic

namespace SearchQuery.Query

/-- Opens a field with a name that is not blank. -/
def openField (q : Query) (name : Text) (m : Modifier) : Query :=
  { q.append [m.mark, name, [':', '(']] with openFields := name :: q.openFields }.done

/-- Opens a field, unless its name is missing. -/
def startField (q : Query) (name : Option Text) (m : Modifier) : Query :=
  match name with
  | none => q.skipped
  | some name => if Text.isBlank name then q.skipped else q.openField name m

/-- Closes the innermost of the open fields, of which `fields` are left. -/
def closeField (q : Query) (fields : List Text) : Query :=
  let q := { q with openFields := fields }
  let q := if q.buffer.lastChar? = some '(' then q.append [['"', '"']] else q
  (q.append [[')', ' ']]).done

example : ((({} : Query).openField "f" {}).closeField []).text = "f:(\"\") ".toList := by decide

end SearchQuery.Query

/-
  Ranges between two bounds, both included.

  A range that matches nothing is not written: a bound is blank, or both are numbers and the first
  is above the second.  A bound that is none of the numbers is above nothing, so it does not keep a
  range from being written.  A range without one of its bounds is a fault.

  A bound may show the query that the range is written into, so its text is only known once the mark
  and the field in front of the range are written.
-/
import SearchQuery.Query.Basic
import SearchQuery.Text.Escape

namespace SearchQuery

/-- A bound of a range: how it is written when the text of the query around it is given, and the
    number that it is, if it is one. -/
structure Bound where
  textIn : Text → Text
  number : Option Number := none

namespace Bound

/-- A text as a bound. -/
def ofText (t : Text) : Bound := ⟨fun _ => t, none⟩

/-- A number as a bound.  A truth value is written as one but not compared. -/
def ofNumber : Number → Bound
  | .flag b => ofText (Number.flagText b)
  | n => ⟨fun _ => n.text, some n⟩

/-- A bound that may be absent, as it is written. -/
def shown (own : Text) : Option Bound → Text
  | none => "None"
  | some b => b.textIn own

/-- Whether the bounds are numbers and the first is above the second. -/
def inverted (start stop : Bound) : Bool :=
  match start.number, stop.number with
  | some a, some b => b.lt a
  | _, _ => false

/-- The bounds, if the range between them can match anything. -/
def check (own : Text) (start stop : Option Bound) : Except QueryError (Option (Bound × Bound)) :=
  match start, stop with
  | some a, some b =>
    if Text.isBlank (a.textIn own) || Text.isBlank (b.textIn own) || inverted a b then .ok none
    else .ok (some (a, b))
  | _, _ => .error (.invalidRange (shown own start) (shown own stop))

end Bound

namespace Query

/-- What stands in front of a range: the mark, and the field if a name is given. -/
def rangeLead (field : Option Text) (m : Modifier) : List Text :=
  m.mark :: match field with
    | some name => if name.isEmpty then [] else [name, [':']]
    | none => []

/-- Writes a range, in a field if a name is given. -/
def writeRange (q : Query) (field : Option Text) (start stop : Bound) (m : Modifier) : Query :=
  let star : Text := if m.wildcarded then ['*'] else []
  let q := q.append (rangeLead field m)
  (q.append
    [['['], Text.escapeAll (start.textIn q.text), star, [' ', 'T', 'O', ' '],
     Text.escapeAll (stop.textIn q.text), star, [']', ' ']]).done

example : (({} : Query).writeRange (some "year".toList) (.ofNumber (.int (-1))) (.ofText "a b") {}).text
    = "year:[\\-1 TO a\\ b] ".toList := by decide +kernel

end Query
end SearchQuery

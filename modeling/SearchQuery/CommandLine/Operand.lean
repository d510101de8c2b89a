/-
  What the values of the options say.

  1. `assignment` — a name and a value, cut apart at the FIRST equals sign.  The name must not be
     blank; blanks around it do not count, those of the value do.
  2. `range` — a name and two bounds: an assignment whose value is cut apart at the FIRST pair of
     dots.
  3. `bound` — an integer if the text can be read as one, else a number, else the text itself.
-/
import SearchQuery.Double.Numeral
import SearchQuery.Scalar
import SearchQuery.Text.Blank

namespace SearchQuery.CommandLine

/-- What can be wrong with the value of an option; the value is kept. -/
inductive OperandFault where
  | notAssignment (raw : Text)
  | notRange (raw : Text)
  deriving DecidableEq, Repr

/-- The text of a fault. -/
def OperandFault.message : OperandFault → Text
  | .notAssignment raw => "expected NAME=VALUE, got ".toList ++ Text.quoted raw
  | .notRange raw => "expected NAME=FROM..TO, got ".toList ++ Text.quoted raw

/-- The name and the value of an assignment. -/
def assignment (raw : Text) : Except OperandFault (Text × Text) :=
  match Text.cut ['='] raw with
  | none => .error (.notAssignment raw)
  | some (name, value) =>
    if Text.isBlank name then .error (.notAssignment raw) else .ok (Text.strip name, value)

/-- What a bound stands for. -/
def bound (raw : Text) : Scalar :=
  match Numeral.int? raw with
  | some n => .number (.int n)
  | none =>
    match Numeral.double? raw with
    | some x => .number (.double x)
    | none => .text raw

/-- The name and the bounds of a range. -/
def range (raw : Text) : Except OperandFault (Text × Scalar × Scalar) := do
  let (name, value) ← assignment raw
  match Text.cut ['.', '.'] value with
  | none => throw (.notRange raw)
  | some (start, stop) => return (name, bound start, bound stop)

example : assignment " t =a=b" = .ok ("t".toList, "a=b".toList) := by rfl
example : (range "y=1..2..3").toOption = some ("y".toList, .number (.int 1), .text "2..3") := by
  decide +kernel

end SearchQuery.CommandLine

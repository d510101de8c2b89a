/-
  Numbers as a caller gives them: truth values, integers and numbers of double precision.

  A truth value counts as 0 or 1.  Numbers of different kinds are compared by the place where they
  lie on the line, exactly, so an integer is never rounded for a comparison; a number that is none
  compares with nothing.  Only the text of a number shows its kind: 0, 0.0, -0.0 and the truth
  value false lie at one place and are written in four ways.

  An integer of more than 4300 digits has a text, but it is refused where it is to be written.
-/
import SearchQuery.Double.Notation
import SearchQuery.Double.Numeral

namespace SearchQuery

/-- A number. -/
inductive Number where
  | flag (b : Bool)
  | int (n : Int)
  | double (x : Double)
  deriving DecidableEq, Repr

namespace Number

/-! ## Comparing -/

/-- Where a number lies on the line. -/
def position? : Number → Option Double.Position
  | .flag b => some (Double.positionOfInt b.toNat)
  | .int n => some (Double.positionOfInt n)
  | .double x => x.position?

/-- Whether the first number is at most the second. -/
def le (a b : Number) : Bool :=
  match a.position?, b.position? with
  | some p, some q => p.le q
  | _, _ => false

/-- Whether the first number is less than the second. -/
def lt (a b : Number) : Bool :=
  match a.position?, b.position? with
  | some p, some q => p.lt q
  | _, _ => false

/-- Whether two numbers lie at one place. -/
def equal (a b : Number) : Bool := a.le b && b.le a

/-- Whether a number is not zero.  One that is none is not. -/
def truthy (a : Number) : Bool := !a.equal (.int 0)

/-! ## Converting -/

/-- A number in double precision. -/
def toDouble : Number → Double
  | .flag b => .ofInt b.toNat
  | .int n => .ofInt n
  | .double x => x

/-- A truth value as it is written. -/
def flagText (b : Bool) : Text := if b then "True" else "False"

/-- A number as it is written. -/
def text : Number → Text
  | .flag b => flagText b
  | .int n => Text.ofInt n
  | .double x => x.text

/-- Whether a number may be written: an integer must not have too many digits. -/
def isWritable : Number → Bool
  | .int n => n.natAbs < Nat.pow 10 Numeral.maxDigits
  | .flag _ | .double _ => true

example : (Number.int (2 ^ 53 + 1)).lt (.double (.ofInt (2 ^ 53))) = false ∧
    (Number.double (.ofInt (2 ^ 53))).lt (.int (2 ^ 53 + 1)) = true := by decide +kernel
example : (Number.flag true).equal (.double .one) = true := by decide +kernel
example : (Number.double .nan).le (.double .nan) = false := by decide

end Number
end SearchQuery

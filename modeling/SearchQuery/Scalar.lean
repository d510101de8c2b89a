/-
  Scalars: values without parts, which may also be keys of a mapping.

  Two keys are the same key when they are equal; numbers of all kinds, truth values among them, are
  equal when they lie at one place, and points in time when they are the same in universal time.  A
  number that is none is equal to nothing; the name for it that documents have is one value, though,
  wherever it stands.
-/
import SearchQuery.Calendar
import SearchQuery.Number
import SearchQuery.Text.Quoted

namespace SearchQuery

/-- A value without parts. -/
inductive Scalar where
  | null
  | number (n : Number)
  /-- the number that is none, by its name -/
  | undefined
  | text (t : Text)
  | bytes (bytes : List UInt8)
  | date (d : Date)
  | moment (m : Moment)
  deriving DecidableEq, Repr

namespace Scalar

/-- A scalar as it is written. -/
def written : Scalar → Text
  | .null => "None"
  | .number n => n.text
  | .undefined => Double.nan.text
  | .text t => t
  | .bytes b => Text.quotedBytes b
  | .date d => d.text
  | .moment m => m.text

/-- A scalar as it is shown inside other values. -/
def shown : Scalar → Text
  | .text t => Text.quoted t
  | .date d => d.shown
  | .moment m => m.shown
  | s => s.written

/-- The name of the kind of a scalar. -/
def kind : Scalar → Text
  | .null => "NoneType"
  | .number (.flag _) => "bool"
  | .number (.int _) => "int"
  | .number (.double _) | .undefined => "float"
  | .text _ => "str"
  | .bytes _ => "bytes"
  | .date _ => "date"
  | .moment _ => "datetime"

/-- Whether a scalar counts as true: there is something in it. -/
def truthy : Scalar → Bool
  | .null => false
  | .number n => n.truthy
  | .undefined => true
  | .text t => !t.isEmpty
  | .bytes b => !b.isEmpty
  | .date _ | .moment _ => true

/-- Whether two scalars are one key. -/
def sameKey : Scalar → Scalar → Bool
  | .number a, .number b => a.equal b
  | .moment a, .moment b => a.same b
  | a, b => a == b

end Scalar

/-- The entries of a mapping, in the order in which their keys came. -/
abbrev Entries (α : Type) := List (Scalar × α)

namespace Entries

variable {α : Type}

/-- The value of a key. -/
def get? (key : Scalar) : Entries α → Option α
  | [] => none
  | (k, v) :: rest => if k.sameKey key then some v else get? key rest

/-- The entries with a value for a key: a key that is there keeps its place and its form, a new one
    goes to the end. -/
def insert (key : Scalar) (value : α) : Entries α → Entries α
  | [] => [(key, value)]
  | (k, v) :: rest => if k.sameKey key then (k, value) :: rest else (k, v) :: insert key value rest

/-- The entries made of pairs, of which a later one replaces the value of an earlier one. -/
def ofPairs (pairs : List (Scalar × α)) : Entries α :=
  pairs.foldl (fun es (k, v) => insert k v es) []

end Entries
end SearchQuery

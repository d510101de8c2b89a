/-
  Values: what a caller asks to search for.

  A value is a scalar, a byte array, a group of values, a stream of values, a mapping, or a query.
  A stream can be read only once: what is read from it is gone, so its members are kept apart, on a
  shelf, and the value only names the place.

  1. **Kinds** — a list, a tuple, a set and a stream are groups; everything else is taken as one.
  2. **Text** — `written` is how a value stands in a query, `shown` how it stands inside of another
     value: a text is then in quotes, and a query is described.  A template or a forwarder has no
     description: it is an object of its kind, and its address, which differs from run to run, is
     left out.
-/
import SearchQuery.Query.Surroundings
import SearchQuery.Scalar

namespace SearchQuery

/-- The kinds of groups that can be read again and again. -/
inductive Shape where
  | list
  | tuple
  | set
  deriving DecidableEq, Repr

/-- A value to search for. -/
inductive Value where
  | scalar (s : Scalar)
  | byteArray (bytes : List UInt8)
  | group (shape : Shape) (members : List Value)
  /-- the stream at a place on the shelf -/
  | stream (place : Nat)
  | mapping (entries : List (Scalar × Value))
  | query (h : Handle)
  deriving Repr

namespace Value

/-- The absent value. -/
def absent : Value := .scalar .null

/-- A text as a value. -/
def text (t : Text) : Value := .scalar (.text t)

/-! ## Kinds -/

/-- Whether a value is the absent one. -/
def isAbsent : Value → Bool
  | .scalar .null => true
  | _ => false

/-- Whether a value is written as a group of values. -/
def isGroup : Value → Bool
  | .group _ _ | .stream _ => true
  | _ => false

/-- The name of the kind of a value. -/
def kind : Value → Text
  | .scalar s => s.kind
  | .byteArray _ => "bytearray"
  | .group .list _ => "list"
  | .group .tuple _ => "tuple"
  | .group .set _ => "set"
  | .stream _ => "list_iterator"
  | .mapping _ => "dict"
  | .query (.query _) => "TextQuery"
  | .query (.template _ _) => "QueryBuilder"
  | .query (.forwarder _) => "ForwardingQuery"

/-- The number that a value is; a truth value is no number here. -/
def number? : Value → Option Number
  | .scalar (.number (.flag _)) => none
  | .scalar (.number n) => some n
  | _ => none

mutual

/-- Whether a query of a certain kind stands in a value.  In a mapping only a query itself is
    described, so nothing else counts there that leads to one. -/
def mentions (p : Handle → Bool) : Value → Bool
  | .query h => p h
  | .group _ members => anyMentions p members
  | .mapping entries => anyEntryMentions (fun h => p h && h.isQuery) entries
  | .scalar _ | .byteArray _ | .stream _ => false

/-- Whether a query of a certain kind stands in one of the values. -/
def anyMentions (p : Handle → Bool) : List Value → Bool
  | [] => false
  | v :: vs => v.mentions p || anyMentions p vs

/-- Whether a query of a certain kind stands in a value of one of the entries. -/
def anyEntryMentions (p : Handle → Bool) : List (Scalar × Value) → Bool
  | [] => false
  | (_, v) :: es => v.mentions p || anyEntryMentions p es

end

/-- A value taken apart: a text into its characters, bytes into their numbers, a mapping into its
    keys. -/
def asGroup : Value → Value
  | .scalar (.text t) => .group .list (t.map fun c => .text [c])
  | .scalar (.bytes bytes) | .byteArray bytes =>
    .group .list (bytes.map fun b => .scalar (.number (.int b.toNat)))
  | .mapping entries => .group .list (entries.map fun (k, _) => .scalar k)
  | v => v

/-! ## Text -/

/-- A query as descriptions show it. -/
def describeQuery (text : Text) (m : Modifier) : Text :=
  "TextQuery(text=".toList ++ Text.quoted text ++ ", modifier=".toList ++ m.description
    ++ ")".toList

/-- A handle as it stands inside of a value. -/
def shownHandle (qs : Queries) (h : Handle) : Text :=
  if h.isQuery then describeQuery (qs.text h) (qs.modifier h)
  else '<' :: (Value.query h).kind ++ " object>".toList

mutual

/-- A value as it stands inside of another value. -/
def shown (qs : Queries) : Value → Text
  | .scalar s => s.shown
  | .byteArray bytes => "bytearray(".toList ++ Text.quotedBytes bytes ++ ")".toList
  | .group .list members => '[' :: Text.join ", " (shownAll qs members) ++ [']']
  | .group .tuple [m] => '(' :: shown qs m ++ [',', ')']
  | .group .tuple members => '(' :: Text.join ", " (shownAll qs members) ++ [')']
  | .group .set [] => "set()"
  | .group .set members => '\x7b' :: Text.join ", " (shownAll qs members) ++ ['\x7d']
  | .stream _ => "<list_iterator>"
  | .mapping entries => '\x7b' :: Text.join ", " (shownEntries qs entries) ++ ['\x7d']
  | .query h => shownHandle qs h

/-- Values as they stand inside of another value. -/
def shownAll (qs : Queries) : List Value → List Text
  | [] => []
  | v :: vs => shown qs v :: shownAll qs vs

/-- Entries as they stand inside of a mapping. -/
def shownEntries (qs : Queries) : List (Scalar × Value) → List Text
  | [] => []
  | (k, v) :: es => (k.shown ++ ": ".toList ++ shown qs v) :: shownEntries qs es

end

/-- A value as it stands in a query. -/
def written (qs : Queries) : Value → Text
  | .scalar s => s.written
  | .query h => qs.text h
  | v => shown qs v

/-- Whether a value counts as true: there is something in it. -/
def truthy (qs : Queries) : Value → Bool
  | .scalar s => s.truthy
  | .byteArray bytes => !bytes.isEmpty
  | .group _ members => !members.isEmpty
  | .stream _ => true
  | .mapping entries => !entries.isEmpty
  | .query h => !(qs.text h).isEmpty

/-! ## Values in the place of modifiers and occurrences -/

/-- A value in the place of an occurrence is absent or something else. -/
def asOccurrence (qs : Queries) (v : Value) : Modifier.OccurrenceArg :=
  if v.isAbsent then .absent else .other v.kind (v.shown qs)

/-- A value that may name an occurrence. -/
def namedOccurrence (qs : Queries) (v : Value) : Modifier.OccurrenceArg :=
  match v with
  | .scalar (.text t) =>
    match Occurrence.ofName? t with
    | some o => .given o
    | none => .other v.kind (v.shown qs)
  | v => v.asOccurrence qs

end Value
end SearchQuery

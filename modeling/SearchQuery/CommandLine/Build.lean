/-
  Building a query from the options of a command.

  The options override the configured default modifier field by field.  The terms are written first,
  several of them as one group, then the fields, then the ranges, all under that modifier.  A query
  without any text is a fault.  With a boost the whole query becomes one clause of a new query.

  What is skipped on the way is noted.
-/
import SearchQuery.CommandLine.Options
import SearchQuery.Query.Store

namespace SearchQuery.CommandLine

/-! ## Faults and notes -/

/-- Why no query is built. -/
inductive BuildFault where
  | query (e : QueryError)
  | usage (f : UsageFault)
  deriving DecidableEq, Repr

/-- What was skipped. -/
inductive Note where
  | field (name : Text)
  | range (name : Text) (start stop : Scalar)
  deriving DecidableEq, Repr

/-- The text of a note. -/
def Note.message : Note → Text
  | .field name => "Skipping field ".toList ++ Text.quoted name ++ ": nothing to search for".toList
  | .range name start stop =>
    "Skipping range on field ".toList ++ Text.quoted name ++ ": [".toList ++ start.shown
      ++ " TO ".toList ++ stop.shown ++ "]".toList

/-- A query that is being built, with the notes taken so far. -/
structure Progress where
  store : Store := {}
  notes : List Note := []

/-- A query in the making, which may turn out to be a fault; what was noted before stays noted. -/
abbrev Building := ExceptT BuildFault (StateM Progress)

/-! ## The modifier -/

/-- A modifier with the options for it put in place. -/
def BuildOptions.modifier (o : BuildOptions) (m : Modifier) : Except QueryError Modifier := do
  let m : Modifier :=
    { m with
      occurrence := o.occurrence.getD m.occurrence
      wildcarded := o.wildcarded.getD m.wildcarded
      split := o.split.getD m.split
      disjunct := o.disjunct.getD m.disjunct }
  match o.fuzziness with
  | none => return m
  | some f => m.withFuzziness (some (.double f))

/-! ## The query -/

namespace Building

/-- A call on a query. -/
def call (h : Handle) (c : Call) : Building Unit := do
  let d ← get
  let (r, store) := d.store.call h c
  set { d with store }
  match r with
  | .ok () => return ()
  | .error e => throw (.query e)

/-- Takes a note if the last call on a query wrote nothing. -/
def noteSkipped (h : Handle) (n : Note) : Building Unit :=
  modify fun d =>
    if (d.store.query h).succeeded then d else { d with notes := d.notes ++ [n] }

/-- A new query. -/
def newQuery (m : Modifier) : Building Handle :=
  modifyGet fun d =>
    let (h, store) := d.store.addQuery (.new (some m) [])
    (h, { d with store })

/-- Writes the terms. -/
def terms (h : Handle) : List Text → Building Unit
  | [] => return ()
  | [t] => call h (.argument (.text t) .absent)
  | ts => call h (.argument (.group .list (ts.map Value.text)) .absent)

/-- Writes a field. -/
def field (h : Handle) (raw : Text) : Building Unit := do
  match assignment raw with
  | .error f => throw (.usage (.operand "--field" f))
  | .ok (name, value) =>
    call h (.field (some name) (.text value) .absent none none)
    noteSkipped h (.field name)

/-- Writes a range. -/
def range (h : Handle) (raw : Text) : Building Unit := do
  match CommandLine.range raw with
  | .error f => throw (.usage (.operand "--range" f))
  | .ok (name, start, stop) =>
    call h (.rangeField (some name) (.scalar start) (.scalar stop) .absent)
    noteSkipped h (.range name start stop)

/-- The text of a query, as one clause of a new query with a boost if one is asked for. -/
def boosted (h : Handle) (m : Modifier) (boost : Option Double) : Building Text := do
  match boost with
  | none => return (← get).store.text h
  | some b =>
    let outer ← newQuery m
    call outer (.subquery (some h) (.mandatory false))
    call outer (.boost (.double b))
    return (← get).store.text outer

/-- The text of the query that is asked for, as it is written. -/
def query (m : Modifier) (o : BuildOptions) : Building Text := do
  let m ← match o.modifier m with
    | .ok m => pure m
    | .error e => throw (.query e)
  let h ← newQuery m
  terms h o.terms
  for raw in o.fields do field h raw
  for raw in o.ranges do range h raw
  if ((← get).store.text h).isEmpty then throw (.usage .nothingToSearch)
  boosted h m o.boost

end Building

/-- The text of the query that is asked for, without blanks around it, and what was noted. -/
def build (m : Modifier) (o : BuildOptions) : Except BuildFault Text × List Note :=
  let (r, d) := (Building.query m o).run.run {}
  (r.map Text.strip, d.notes)

end SearchQuery.CommandLine

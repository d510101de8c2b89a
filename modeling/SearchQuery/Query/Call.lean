/-
  Calls: everything that can be done to a query.

  1. **Program** — `Call`, the fourteen calls with their arguments, and `Call.perform`.  A call runs
     in a scene: the query that receives it, and the shelf of the streams that it may read from.  It
     may be refused, and whatever it did up to that point stays done.
  2. **Order** — a call checks its arguments before it writes.  A modifier is resolved against the
     default one: nothing stands for the default, a truth value for the default with the occurrence
     replaced.  For a group the truth value also says whether all its members have to match.
  3. **Fields** — a field with nothing to search for is not opened, so no empty pair of parentheses
     is left behind.
-/
import SearchQuery.Query.Boost
import SearchQuery.Query.Range
import SearchQuery.Query.Scope
import SearchQuery.Query.Unescaped
import SearchQuery.Query.Write
import SearchQuery.Value.Bound
import SearchQuery.Value.Shelf

namespace SearchQuery

/-! ## Modifiers as a caller gives them -/

/-- A modifier as a caller gives it. -/
inductive ModifierArg where
  /-- the default modifier -/
  | absent
  /-- the default modifier, required or plain -/
  | mandatory (on : Bool)
  | given (m : Modifier)
  /-- something else, of which the kind is kept -/
  | other (kind : Text)
  deriving DecidableEq, Repr

/-- The modifier that is meant, with `standard` as the default one, for a group or a single value. -/
def ModifierArg.resolve (standard : Modifier) (group : Bool) :
    ModifierArg → Except QueryError Modifier
  | .absent => .ok standard
  | .mandatory on => do
    let m ← standard.withOccurrence (if on then .required else .plain)
    if group then m.withDisjunct (!on) else return m
  | .given m => .ok m
  | .other kind => .error (.notModifier kind)

/-- The modifier that is meant by a fuzzy call. -/
def ModifierArg.resolveFuzzy (standard : Modifier) (group : Bool) (f : Option Number)
    (m : ModifierArg) : Except QueryError Modifier :=
  match m.resolve standard group with
  | .ok m => m.withFuzziness f
  | .error e => .error e

/-- The modifier that is meant by a field, which may say apart from it whether all members have to
    match. -/
def ModifierArg.resolveField (standard : Modifier) (group : Bool) (allMembers : Option Bool)
    (m : ModifierArg) : Except QueryError Modifier :=
  match m.resolve standard group, allMembers with
  | .ok m, none => .ok m
  | .ok m, some all => m.withDisjunct (!all)
  | .error e, _ => .error e

/-- The fuzziness of a fuzzy call that names none. -/
def Modifier.usualFuzziness : Number := .double (.ofRatio false 1 2)

/-! ## The calls -/

/-- A call on a query. -/
inductive Call where
  | argument (value : Value) (m : ModifierArg)
  | fuzzyArgument (value : Value) (m : ModifierArg) (fuzziness : Option Number)
  | field (name : Option Text) (value : Value) (m : ModifierArg) (boost : Option Number)
      (allMembers : Option Bool)
  | fuzzyField (name : Option Text) (value : Value) (m : ModifierArg) (fuzziness : Option Number)
  | range (start stop : Value) (m : ModifierArg)
  | rangeField (name : Option Text) (start stop : Value) (m : ModifierArg)
  | subquery (query : Option Handle) (m : ModifierArg)
  | startField (name : Option Text) (m : ModifierArg)
  | endField
  | boost (factor : Number)
  | unescaped (text : Option Text) (mandatory : Bool)
  | unescapedField (name text : Option Text) (mandatory : Bool)
  | setModifier (m : Option Modifier)
  | setWildcarded (on : Bool)
  deriving Repr

/-- Where a call takes place. -/
structure Scene where
  query : Query
  shelf : Shelf

/-- A call in progress: it may be refused, and what it did before stays done. -/
abbrev Calling := ExceptT QueryError (StateM Scene)

namespace Calling

/-- Changes the query. -/
def write (f : Query → Query) : Calling Unit := modify fun s => { s with query := f s.query }

/-- Notes that nothing was written. -/
def skip : Calling Unit := write Query.skipped

/-- The modifier that an argument means to the receiver. -/
def resolve (group : Bool) (m : ModifierArg) : Calling Modifier := do
  m.resolve (← get).query.modifier group

/-- Whether there is nothing to search for in a value. -/
def isBlank (w : Surroundings) (v : Value) : Calling Bool :=
  modifyGet fun s =>
    let (blank, shelf) := v.isBlank (w.when s.query.text) s.shelf
    (blank, { s with shelf })

/-- A value whose outermost group can be read again. -/
def settle (v : Value) : Calling Value :=
  modifyGet fun s =>
    let (v, shelf) := v.settled s.shelf
    (v, { s with shelf })

/-- Writes a value as one clause. -/
def put (w : Surroundings) (v : Value) (m : Modifier) : Calling Unit :=
  modify fun s =>
    let (t, shelf) := v.term w s.shelf
    ⟨s.query.write m t, shelf⟩

/-- Opens a field, unless its name is missing. -/
def startField (name : Option Text) (m : ModifierArg) : Calling Unit := do
  let m ← resolve false m
  write fun q => q.startField name m

/-- Closes the innermost field. -/
def endField : Calling Unit := do
  match (← get).query.openFields with
  | [] => throw .noOpenField
  | _ :: fields => write fun q => q.closeField fields

/-- Writes a boost behind the last clause. -/
def boost (f : Number) : Calling Unit := do
  Boost.check f
  write fun q => q.writeBoost f

/-- Writes a value into a field that is opened for it and closed behind it, with a boost if one is
    given. -/
def enclose (w : Surroundings) (name : Option Text) (v : Value) (m : Modifier)
    (factor : Option Number) : Calling Unit := do
  startField name (.given m)
  put w v m.nested
  endField
  if let some f := factor then boost f

/-- Writes a value as a field of its own, unless there is nothing to search for. -/
def field (w : Surroundings) (name : Option Text) (v : Value) (m : ModifierArg)
    (factor : Option Number) (allMembers : Option Bool) : Calling Unit := do
  Boost.checkGiven factor
  let group := v.isGroup
  let v ← settle v
  let m ← m.resolveField (← get).query.modifier group allMembers
  if Text.isMissing name then skip
  else if ← isBlank w v then skip
  else enclose w name v m factor

/-- The bounds of a range, if it can match anything. -/
def bounds (w : Surroundings) (start stop : Value) : Calling (Option (Bound × Bound)) := do
  Bound.check (← get).query.text (start.bound w) (stop.bound w)

/-- Writes a range, in a field if a name is given. -/
def range (name : Option Text) (start stop : Bound) (m : ModifierArg) : Calling Unit := do
  let m ← resolve false m
  write fun q => q.writeRange name start stop m

/-- Writes the text of a query as one clause. -/
def subquery (w : Surroundings) (query : Option Handle) (m : ModifierArg) : Calling Unit := do
  let m ← resolve false m
  put w (query.elim .absent .query) m

end Calling

/-- Performs a call. -/
def Call.perform (w : Surroundings) : Call → Calling Unit
  | .argument v m => do
    let m ← Calling.resolve v.isGroup m
    Calling.put w v m
  | .fuzzyArgument v m f => do
    let m ← m.resolveFuzzy (← get).query.modifier v.isGroup f
    Calling.put w v m
  | .field name v m factor allMembers => Calling.field w name v m factor allMembers
  | .fuzzyField name v m f => do
    let m ← m.resolveFuzzy (← get).query.modifier v.isGroup f
    Calling.field w name v (.given m) none none
  | .range start stop m => do
    match ← Calling.bounds w start stop with
    | none => Calling.skip
    | some (a, b) => Calling.range none a b m
  | .rangeField name start stop m => do
    match ← Calling.bounds w start stop with
    | none => Calling.skip
    | some (a, b) => if Text.isMissing name then Calling.skip else Calling.range name a b m
  | .subquery query m => Calling.subquery w query m
  | .startField name m => Calling.startField name m
  | .endField => Calling.endField
  | .boost f => Calling.boost f
  | .unescaped t mandatory => Calling.write fun q => q.writeUnescaped none t mandatory
  | .unescapedField name t mandatory =>
    if Text.isMissing name then Calling.skip
    else Calling.write fun q => q.writeUnescaped name t mandatory
  | .setModifier none => throw .missingModifier
  | .setModifier (some m) => Calling.write fun q => { q with modifier := m }
  | .setWildcarded on => do
    let m ← (← get).query.modifier.withWildcarded on
    Calling.write fun q => { q with modifier := m }

/-- Performs a call in a scene: whether it was refused, and the scene after it. -/
def Call.run (c : Call) (w : Surroundings) (s : Scene) : Except QueryError Unit × Scene :=
  (c.perform w).run.run s

end SearchQuery

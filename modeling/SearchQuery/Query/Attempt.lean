/-
  Attempts: calls that may break off.

  `Call.run` is a call that can write whatever it is given.  An integer of too many digits is refused
  when its text is asked for, which may be late: a part of the call is done by then, and it stays
  done.  Nothing closes a group or a field that was opened before.

  1. **Breaking off (`Call.breaks?`)** — how far a call comes that breaks off.  Only calls that are
     given values can, and only when they have passed the checks in front.
  2. **Attempts (`Call.attempt`)** — a call as it really goes: it breaks off, or it is a run.
  3. **Stores** — an attempt through a handle, and a request for one.
-/
import SearchQuery.Query.Forward
import SearchQuery.Value.Limit

namespace SearchQuery

/-! ## Breaking off -/

/-- Writes what was written of a value when writing it broke off. -/
def Query.writeRemnant (q : Query) (m : Modifier) : Remnant → Query
  | .nothing => q
  | .opened before rest =>
    ((q.append [m.mark, ['(']]).writeMembers q.text m.element before).writeRemnant m.element rest

/-- How far a call came that broke off. -/
structure Break where
  /-- the field that is open by then -/
  field : Option Text := none
  modifier : Modifier := {}
  /-- what was written of the value -/
  rest : Remnant := .nothing
  shelf : Shelf

/-- The scene that is left of a call that broke off. -/
def Break.scene (b : Break) (q : Query) : Scene :=
  match b.field with
  | none => ⟨q.writeRemnant b.modifier b.rest, b.shelf⟩
  | some name => ⟨(q.openField name b.modifier).writeRemnant b.modifier.nested b.rest, b.shelf⟩

/-- Where writing a value breaks off, if it does. -/
def Scene.breakPut? (s : Scene) (w : Surroundings) (v : Value) (m : Modifier) : Option Break :=
  (v.break? w s.shelf).map fun (rest, shelf) => { modifier := m, rest, shelf }

/-- Where a field breaks off, if it does: when it is asked whether there is anything to search for,
    or when the value is written and the field is open. -/
def Scene.breakField? (s : Scene) (w : Surroundings) (name : Option Text) (v : Value) (m : Modifier) :
    Option Break :=
  match name with
  | none => none
  | some name =>
    if Text.isBlank name then none
    else match v.blankBreak? (w.when s.query.text) s.shelf with
      | some shelf => some { shelf }
      | none =>
        let (blank, shelf) := v.isBlank (w.when s.query.text) s.shelf
        if blank then none
        else (v.break? w shelf).map fun (rest, shelf) =>
          { field := some name, modifier := m, rest, shelf }

/-- Whether asking for the bounds of a range breaks off.  If one is absent, both are shown in the
    fault; otherwise the second is only looked at if the first is not blank. -/
def Value.boundsBreak (qs : Queries) (start stop : Value) : Bool :=
  if start.isAbsent || stop.isAbsent then !start.isWritable || !stop.isWritable
  else !start.isWritable || (!Text.isBlank (start.written qs) && !stop.isWritable)

/-- Where a call breaks off, if it does. -/
def Call.breaks? (w : Surroundings) (s : Scene) : Call → Option Break
  | .argument v m =>
    (m.resolve s.query.modifier v.isGroup).toOption.bind fun m => s.breakPut? w v m
  | .fuzzyArgument v m f =>
    (m.resolveFuzzy s.query.modifier v.isGroup f).toOption.bind fun m => s.breakPut? w v m
  | .field name v m factor allMembers =>
    match Boost.checkGiven factor with
    | .error _ => none
    | .ok () =>
      let (settled, shelf) := v.settled s.shelf
      (m.resolveField s.query.modifier v.isGroup allMembers).toOption.bind fun m =>
        (⟨s.query, shelf⟩ : Scene).breakField? w name settled m
  | .fuzzyField name v m f =>
    let (settled, shelf) := v.settled s.shelf
    (m.resolveFuzzy s.query.modifier v.isGroup f).toOption.bind fun m =>
      (⟨s.query, shelf⟩ : Scene).breakField? w name settled m
  | .range start stop _ | .rangeField _ start stop _ =>
    if Value.boundsBreak (w.when s.query.text) start stop then some { shelf := s.shelf } else none
  | .subquery _ _ | .startField _ _ | .endField | .boost _ | .unescaped _ _
  | .unescapedField _ _ _ | .setModifier _ | .setWildcarded _ => none

/-- The scene in which a single clause breaks off, if it does.  The bounds of a range are not looked
    at before, so its lead is written by then. -/
def Clause.breaks? (w : Surroundings) (m : Option Modifier) (s : Scene) (c : Clause) : Option Scene :=
  m.bind fun m =>
    match c with
    | .value v => (s.breakPut? w v m).map (·.scene s.query)
    | .range name start stop =>
      if start.isWritable && stop.isWritable then none
      else some { s with query := s.query.append (Query.rangeLead name m) }

/-! ## Attempts -/

/-- What comes of something that may break off, given what is left if it does, and what it would come
    to otherwise. -/
def attempted {α σ : Type} (broken : Option σ) (done : Except QueryError α × σ) :
    Except QueryError α × σ :=
  match broken with
  | some s => (.error .unwritable, s)
  | none => (done.1.mapError .told, done.2)

/-- A call as it really goes: it breaks off, or it is run. -/
def Call.attempt (c : Call) (w : Surroundings) (s : Scene) : Except QueryError Unit × Scene :=
  attempted ((c.breaks? w s).map (·.scene s.query)) (c.run w s)

/-! ## Stores -/

namespace Store

/-- The store in which something breaks off that is done with the query of a handle, if it does.  A
    lock is looked at first. -/
def breaks? (s : Store) (h : Handle) (f : Scene → Option Scene) : Option Store :=
  if s.isLocked h then none
  else (f ⟨s.query h, s.shelf⟩).map fun scene =>
    { s with queries := s.queries.set h.terminal scene.query, shelf := scene.shelf }

/-- The store in which a call on a handle breaks off, if it does. -/
def breakCall? (s : Store) (h : Handle) (c : Call) : Option Store :=
  s.breaks? h fun scene => (c.breaks? (s.around h) scene).map (·.scene scene.query)

/-- An attempt at a call on a handle. -/
def attempt (s : Store) (h : Handle) (c : Call) : Except QueryError Unit × Store :=
  attempted (s.breakCall? h c) (s.call h c)

/-- An attempt at a single clause. -/
def attemptClause (s : Store) (h : Handle) (c : Clause) (m : Option Modifier) :
    Except QueryError Unit × Store :=
  attempted (s.breaks? h fun scene => c.breaks? (s.around h) m scene) (s.writeClause h c m)

/-- An attempt at a request of a handle. -/
def ask (s : Store) (h : Handle) (r : Request) : Except QueryError (Option Handle) × Store :=
  attempted (s.breakCall? h r.call) (s.send h r)

end Store

end SearchQuery

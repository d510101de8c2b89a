/-
  What each call does, said once.

  A call runs through a handful of steps, each of which may refuse it.  Here every call gets one
  equation (`run_argument`, `run_field`, …) that names what it is refused for and the scene that it
  leaves behind otherwise; nothing later looks into the steps again.

  1. **Steps** — `Calling.outcome` runs steps in a scene, and goes through them one by one
     (`outcome_bind`).
  2. **Modifiers** — a modifier is found before anything is written: `resolve`, and on top of it
     `resolveFuzzy` and `resolveField` for the calls that change it further.
  3. **Calls** — the equations.  Once a field is open nothing in it can be refused, so a field is one
     change of the query, `Query.writeField`.
-/
import SearchQuery.Proofs.Query.Growth
import SearchQuery.Query.Call

namespace SearchQuery

/-! ## Steps -/

namespace Calling

variable {α β : Type}

/-- How steps end that begin in a scene. -/
def outcome (c : Calling α) (s : Scene) : Except QueryError α × Scene := c.run.run s

theorem outcome_bind (c : Calling α) (k : α → Calling β) (s : Scene) :
    (c >>= k).outcome s = match c.outcome s with
      | (.ok a, s') => (k a).outcome s'
      | (.error e, s') => (.error e, s') := by
  unfold outcome
  rw [ExceptT.run_bind, StateT.run_bind]
  rcases c.run.run s with ⟨r, s'⟩
  cases r <;> rfl

@[simp] theorem outcome_pure (a : α) (s : Scene) : (pure a : Calling α).outcome s = (.ok a, s) := rfl

@[simp] theorem outcome_throw (e : QueryError) (s : Scene) :
    (throw e : Calling α).outcome s = (.error e, s) := rfl

@[simp] theorem outcome_get (s : Scene) : (get : Calling Scene).outcome s = (.ok s, s) := rfl

@[simp] theorem outcome_lift (r : Except QueryError α) (s : Scene) :
    (liftM r : Calling α).outcome s = (r, s) := by
  cases r <;> rfl

end Calling

/-- A scene in which the query was changed. -/
def Scene.change (s : Scene) (f : Query → Query) : Scene := { s with query := f s.query }

/-- A scene in which a value was written. -/
def Scene.put (s : Scene) (w : Surroundings) (v : Value) (m : Modifier) : Scene :=
  ⟨s.query.write m (v.term w s.shelf).1, (v.term w s.shelf).2⟩

/-- What is done with a modifier, unless there is none. -/
def Scene.on (s : Scene) (r : Except QueryError Modifier) (k : Modifier → Scene) :
    Except QueryError Unit × Scene :=
  match r with
  | .ok m => (.ok (), k m)
  | .error e => (.error e, s)

namespace Calling

@[simp] theorem outcome_write (f : Query → Query) (s : Scene) :
    (write f).outcome s = (.ok (), s.change f) := rfl

@[simp] theorem outcome_skip (s : Scene) : skip.outcome s = (.ok (), s.change .skipped) := rfl

@[simp] theorem outcome_put (w : Surroundings) (v : Value) (m : Modifier) (s : Scene) :
    (put w v m).outcome s = (.ok (), s.put w v m) := rfl

@[simp] theorem outcome_settle (v : Value) (s : Scene) :
    (settle v).outcome s = (.ok (v.settled s.shelf).1, ⟨s.query, (v.settled s.shelf).2⟩) := rfl

@[simp] theorem outcome_isBlank (w : Surroundings) (v : Value) (s : Scene) :
    (isBlank w v).outcome s = (.ok (v.isBlank (w.when s.query.text) s.shelf).1,
      ⟨s.query, (v.isBlank (w.when s.query.text) s.shelf).2⟩) := rfl

@[simp] theorem outcome_resolve (group : Bool) (m : ModifierArg) (s : Scene) :
    (resolve group m).outcome s = (m.resolve s.query.modifier group, s) := by
  cases h : m.resolve s.query.modifier group <;> simp [resolve, outcome_bind, h]

@[simp] theorem outcome_startField (name : Option Text) (m : ModifierArg) (s : Scene) :
    (startField name m).outcome s
      = s.on (m.resolve s.query.modifier false) fun m => s.change (·.startField name m) := by
  cases h : m.resolve s.query.modifier false <;> simp [startField, outcome_bind, h, Scene.on]

@[simp] theorem outcome_endField (s : Scene) :
    endField.outcome s = match s.query.openFields with
      | [] => (.error .noOpenField, s)
      | _ :: fields => (.ok (), s.change (·.closeField fields)) := by
  cases h : s.query.openFields <;> simp [endField, outcome_bind, h]

@[simp] theorem outcome_boost (f : Number) (s : Scene) :
    (boost f).outcome s = match Boost.check f with
      | .error e => (.error e, s)
      | .ok () => (.ok (), s.change (·.writeBoost f)) := by
  cases h : Boost.check f <;> simp [boost, outcome_bind, h]

@[simp] theorem outcome_range (name : Option Text) (start stop : Bound) (m : ModifierArg)
    (s : Scene) :
    (range name start stop m).outcome s = s.on (m.resolve s.query.modifier false)
      fun m => s.change (·.writeRange name start stop m) := by
  cases h : m.resolve s.query.modifier false <;> simp [range, outcome_bind, h, Scene.on]

@[simp] theorem outcome_bounds (w : Surroundings) (start stop : Value) (s : Scene) :
    (bounds w start stop).outcome s
      = (Bound.check s.query.text (start.bound w) (stop.bound w), s) := by
  simp [bounds, outcome_bind]

end Calling

/-! ## Factors -/

namespace Boost

theorem check_eq_ok_iff {f : Number} : check f = .ok () ↔ isFactor f = true := by
  rw [check]
  split
  · rename_i h
    exact ⟨fun _ => h, fun _ => rfl⟩
  · rename_i h
    constructor
    · intro he; cases he
    · intro he; exact absurd he h

theorem checkGiven_eq_ok_iff {factor : Option Number} :
    checkGiven factor = .ok () ↔ factor.all isFactor = true := by
  cases factor with
  | none => simp [checkGiven]
  | some f => simpa [checkGiven] using check_eq_ok_iff

end Boost

/-! ## Calls -/

/-- The scene after a field of which the modifier is at hand: it is skipped when its name is missing
    or its value is blank. -/
def Scene.putField (s : Scene) (w : Surroundings) (name : Option Text) (v : Value) (m : Modifier)
    (factor : Option Number) : Scene :=
  let looked := v.isBlank (w.when s.query.text) s.shelf
  match name with
  | none => s.change .skipped
  | some name =>
    if Text.isBlank name then s.change .skipped
    else if looked.1 then ⟨s.query.skipped, looked.2⟩
    else ⟨s.query.writeField name m (v.term w looked.2).1 factor, (v.term w looked.2).2⟩

/-- A field is skipped or written in one go. -/
theorem Scene.query_putField_cases (s : Scene) (w : Surroundings) (name : Option Text) (v : Value)
    (m : Modifier) (factor : Option Number) :
    (s.putField w name v m factor).query = s.query.skipped ∨
      ∃ n t, (s.putField w name v m factor).query = s.query.writeField n m t factor := by
  unfold Scene.putField
  cases name with
  | none => exact .inl rfl
  | some name =>
    by_cases hname : Text.isBlank name = true
    · simp only [hname, if_true]
      exact .inl rfl
    · by_cases hblank : (v.isBlank (w.when s.query.text) s.shelf).1 = true
      · simp only [hname, hblank, if_true]
        exact .inl rfl
      · simp only [hname, hblank]
        exact .inr ⟨name, _, rfl⟩

/-- What a field opens it closes. -/
theorem Scene.openFields_putField (s : Scene) (w : Surroundings) (name : Option Text) (v : Value)
    (m : Modifier) (factor : Option Number) :
    (s.putField w name v m factor).query.openFields = s.query.openFields := by
  rcases s.query_putField_cases w name v m factor with h | ⟨n, t, h⟩
  · rw [h]; rfl
  · rw [h]; exact (Query.sameFrame_writeField s.query n m t factor).openFields

section Equations

variable (w : Surroundings) (s : Scene) (m : ModifierArg)

theorem run_argument (v : Value) :
    (Call.argument v m).run w s
      = s.on (m.resolve s.query.modifier v.isGroup) fun m => s.put w v m := by
  change ((Call.argument v m).perform w).outcome s = _
  cases h : m.resolve s.query.modifier v.isGroup <;>
    simp [Call.perform, Calling.outcome_bind, h, Scene.on]

theorem run_fuzzyArgument (v : Value) (f : Option Number) :
    (Call.fuzzyArgument v m f).run w s
      = s.on (m.resolveFuzzy s.query.modifier v.isGroup f) fun m => s.put w v m := by
  change ((Call.fuzzyArgument v m f).perform w).outcome s = _
  cases h : m.resolveFuzzy s.query.modifier v.isGroup f <;>
    simp [Call.perform, Calling.outcome_bind, h, Scene.on]

theorem run_subquery (query : Option Handle) :
    (Call.subquery query m).run w s = s.on (m.resolve s.query.modifier false)
      fun m => s.put w (query.elim .absent .query) m := by
  change ((Call.subquery query m).perform w).outcome s = _
  cases h : m.resolve s.query.modifier false <;>
    simp [Call.perform, Calling.subquery, Calling.outcome_bind, h, Scene.on]

theorem run_range (start stop : Value) :
    (Call.range start stop m).run w s
      = match Bound.check s.query.text (start.bound w) (stop.bound w) with
        | .error e => (.error e, s)
        | .ok none => (.ok (), s.change .skipped)
        | .ok (some (a, b)) => s.on (m.resolve s.query.modifier false)
            fun m => s.change (·.writeRange none a b m) := by
  change ((Call.range start stop m).perform w).outcome s = _
  rcases h : Bound.check s.query.text (start.bound w) (stop.bound w) with e | _ | ⟨a, b⟩ <;>
    simp [Call.perform, Calling.outcome_bind, h]

theorem run_rangeField (name : Option Text) (start stop : Value) :
    (Call.rangeField name start stop m).run w s
      = match Bound.check s.query.text (start.bound w) (stop.bound w) with
        | .error e => (.error e, s)
        | .ok none => (.ok (), s.change .skipped)
        | .ok (some (a, b)) =>
          if Text.isMissing name then (.ok (), s.change .skipped)
          else s.on (m.resolve s.query.modifier false)
            fun m => s.change (·.writeRange name a b m) := by
  change ((Call.rangeField name start stop m).perform w).outcome s = _
  rcases h : Bound.check s.query.text (start.bound w) (stop.bound w) with e | _ | ⟨a, b⟩
  · simp [Call.perform, Calling.outcome_bind, h]
  · simp [Call.perform, Calling.outcome_bind, h]
  · by_cases hn : Text.isMissing name = true <;> simp [Call.perform, Calling.outcome_bind, h, hn]

theorem run_startField (name : Option Text) :
    (Call.startField name m).run w s
      = s.on (m.resolve s.query.modifier false) fun m => s.change (·.startField name m) :=
  Calling.outcome_startField name m s

theorem run_endField :
    Call.endField.run w s = match s.query.openFields with
      | [] => (.error .noOpenField, s)
      | _ :: fields => (.ok (), s.change (·.closeField fields)) :=
  Calling.outcome_endField s

theorem run_boost (f : Number) :
    (Call.boost f).run w s = match Boost.check f with
      | .error e => (.error e, s)
      | .ok () => (.ok (), s.change (·.writeBoost f)) :=
  Calling.outcome_boost f s

theorem run_unescaped (t : Option Text) (mandatory : Bool) :
    (Call.unescaped t mandatory).run w s
      = (.ok (), s.change (·.writeUnescaped none t mandatory)) := rfl

theorem run_unescapedField (name t : Option Text) (mandatory : Bool) :
    (Call.unescapedField name t mandatory).run w s
      = (.ok (), s.change fun q =>
          if Text.isMissing name then q.skipped else q.writeUnescaped name t mandatory) := by
  change ((Call.unescapedField name t mandatory).perform w).outcome s = _
  by_cases hn : Text.isMissing name = true <;> simp [Call.perform, hn, Scene.change]

theorem run_setModifier (m : Option Modifier) :
    (Call.setModifier m).run w s = match m with
      | none => (.error .missingModifier, s)
      | some m => (.ok (), s.change fun q => { q with modifier := m }) := by
  cases m <;> rfl

theorem run_setWildcarded (on : Bool) :
    (Call.setWildcarded on).run w s = s.on (s.query.modifier.withWildcarded on)
      fun m => s.change fun q => { q with modifier := m } := by
  change ((Call.setWildcarded on).perform w).outcome s = _
  cases h : s.query.modifier.withWildcarded on <;>
    simp [Call.perform, Calling.outcome_bind, h, Scene.on]

/-- **A field, once its modifier is found.**  Nothing can be refused any more: the field that is
    opened is the one that is closed, and the boost was checked before. -/
theorem outcome_enclose (name : Text) (v : Value) (m : Modifier) {factor : Option Number}
    (hfactor : Boost.checkGiven factor = .ok ()) (hname : ¬ Text.isBlank name = true) :
    (Calling.enclose w (some name) v m factor).outcome s
      = (.ok (), ⟨s.query.writeField name m (v.term w s.shelf).1 factor, (v.term w s.shelf).2⟩) := by
  have hopen : s.query.startField (some name) m = s.query.openField name m := by
    simp [Query.startField, hname]
  have hfields : ((s.query.openField name m).write m.nested (v.term w s.shelf).1).openFields
      = name :: s.query.openFields :=
    (Query.sameFrame_write _ _ _).openFields
  cases factor with
  | none =>
    simp [Calling.enclose, Calling.outcome_bind, ModifierArg.resolve, Scene.on, Scene.change,
      Scene.put, hopen, hfields, Query.writeField]
  | some f =>
    have hf : Boost.check f = .ok () := hfactor
    simp [Calling.enclose, Calling.outcome_bind, ModifierArg.resolve, Scene.on, Scene.change,
      Scene.put, hopen, hfields, hf, Query.writeField]

theorem outcome_field (name : Option Text) (v : Value) (factor : Option Number)
    (allMembers : Option Bool) :
    (Calling.field w name v m factor allMembers).outcome s
      = match Boost.checkGiven factor with
        | .error e => (.error e, s)
        | .ok () =>
          let settled : Scene := ⟨s.query, (v.settled s.shelf).2⟩
          settled.on (m.resolveField s.query.modifier v.isGroup allMembers)
            fun m => settled.putField w name (v.settled s.shelf).1 m factor := by
  cases hfactor : Boost.checkGiven factor with
  | error e => simp [Calling.field, Calling.outcome_bind, hfactor]
  | ok =>
    cases hm : m.resolveField s.query.modifier v.isGroup allMembers with
    | error e => simp [Calling.field, Calling.outcome_bind, hfactor, hm, Scene.on]
    | ok m =>
      cases name with
      | none =>
        simp [Calling.field, Calling.outcome_bind, hfactor, hm, Scene.on, Text.isMissing,
          Scene.putField]
      | some name =>
        by_cases hname : Text.isBlank name = true
        · simp [Calling.field, Calling.outcome_bind, hfactor, hm, Scene.on, Text.isMissing, hname,
            Scene.putField]
        · cases hblank : ((v.settled s.shelf).1.isBlank (w.when s.query.text)
              (v.settled s.shelf).2).1 <;>
            simp [Calling.field, Calling.outcome_bind, hfactor, hm, Scene.on, Text.isMissing, hname,
              Scene.putField, hblank, outcome_enclose, Scene.change]

theorem run_field (name : Option Text) (v : Value) (factor : Option Number)
    (allMembers : Option Bool) :
    (Call.field name v m factor allMembers).run w s
      = match Boost.checkGiven factor with
        | .error e => (.error e, s)
        | .ok () =>
          let settled : Scene := ⟨s.query, (v.settled s.shelf).2⟩
          settled.on (m.resolveField s.query.modifier v.isGroup allMembers)
            fun m => settled.putField w name (v.settled s.shelf).1 m factor :=
  outcome_field w s m name v factor allMembers

theorem run_fuzzyField (name : Option Text) (v : Value) (f : Option Number) :
    (Call.fuzzyField name v m f).run w s
      = match m.resolveFuzzy s.query.modifier v.isGroup f with
        | .error e => (.error e, s)
        | .ok m => (.ok (), (⟨s.query, (v.settled s.shelf).2⟩ : Scene).putField w name
            (v.settled s.shelf).1 m none) := by
  change ((Call.fuzzyField name v m f).perform w).outcome s = _
  cases h : m.resolveFuzzy s.query.modifier v.isGroup f with
  | error e => simp [Call.perform, Calling.outcome_bind, h]
  | ok m' =>
    simp [Call.perform, Calling.outcome_bind, h, outcome_field, Boost.checkGiven, Scene.on,
      ModifierArg.resolveField, ModifierArg.resolve]

end Equations

end SearchQuery

/-
  Calls that break off, and runs of attempts.

  A call that breaks off is not undone: what it wrote stays, and so does the field that it opened.

  1. **What is left (`Query.grew_writeRemnant`, `Break.openFields_scene`)** — the old text with a
     piece of a clause behind it, and at most one more open field.
  2. **Attempts (`Call.attempt_of_break`, `Call.attempt_of_none`)** — a call breaks off or is run.  It
     is run if all that it is given may be written, and all that is left in the streams
     (`Call.attempt_of_isWritable`).
  3. **Runs** — `Query.attempts` makes one attempt after the other, and `Query.Attained` says that a
     query is what some attempts make of a new one.  The books stay right, by induction on the run
     (`Attained.sound`), and where nothing is at fault attempts are a run of calls
     (`attempts_eq_run`).
-/
import SearchQuery.Proofs.Query.Run
import SearchQuery.Proofs.Value.Limit
import SearchQuery.Query.Attempt

namespace SearchQuery

/-! ## What is left -/

namespace Remnant

/-- What is left of a value behind the text `own`: the openings of the groups that it broke off in,
    and the members in front. -/
def render (own : Text) (m : Modifier) : Remnant → Text
  | .nothing => []
  | .opened before rest =>
    let inner := Term.renderMembers own (own ++ m.mark ++ ['(']) m.element before
    m.mark ++ ['('] ++ inner ++ rest.render (own ++ m.mark ++ ['('] ++ inner) m.element

/-- How many groups are left open. -/
def depth : Remnant → Nat
  | .nothing => 0
  | .opened _ rest => rest.depth + 1

end Remnant

namespace Query

variable {q : Query}

/-- **A remnant** adds its rendering. -/
theorem grew_writeRemnant (r : Remnant) (hq : q.buffer.Sound) (m : Modifier) :
    q.Grew (r.render q.text m) (q.writeRemnant m r) := by
  induction r generalizing q m with
  | nothing => exact Grew.refl hq
  | opened before rest ih =>
    have hopened := grew_append hq [m.mark, ['(']]
    have hbefore := grew_writeMembers before _ q.text m.element hopened.sound
    have htext : (q.append [m.mark, ['(']]).text = q.text ++ m.mark ++ ['('] := by simp
    rw [htext] at hbefore
    have hfront := hopened.trans hbefore
    have hrest := ih hfront.sound m.element
    rw [hfront.text] at hrest
    simpa [Remnant.render, writeRemnant] using hfront.trans hrest

theorem sameFrame_writeRemnant (r : Remnant) (q : Query) (m : Modifier) :
    q.SameFrame (q.writeRemnant m r) := by
  induction r generalizing q m with
  | nothing => exact .refl q
  | opened before rest ih =>
    have hopened : q.SameFrame (q.append [m.mark, ['(']]) := ⟨rfl, rfl⟩
    have hbefore := sameFrame_writeMembers before (q.append [m.mark, ['(']]) q.text m.element
    exact (hopened.trans hbefore).trans (ih _ m.element)

end Query

namespace Break

variable {q : Query}

/-- **A call that broke off** leaves the old text with something behind it. -/
theorem exists_grew_scene (b : Break) (hq : q.buffer.Sound) : ∃ t, q.Grew t (b.scene q).query := by
  unfold scene
  cases b.field with
  | none => exact ⟨_, Query.grew_writeRemnant b.rest hq b.modifier⟩
  | some name =>
    have hopened := (Query.wrote_openField hq name b.modifier).toGrew
    exact ⟨_, hopened.trans (Query.grew_writeRemnant b.rest hopened.sound b.modifier.nested)⟩

/-- The field that it opened stays open. -/
theorem openFields_scene (b : Break) (q : Query) :
    (b.scene q).query.openFields = b.field.toList ++ q.openFields := by
  unfold scene
  cases b.field with
  | none => exact (Query.sameFrame_writeRemnant b.rest q b.modifier).openFields
  | some name => exact (Query.sameFrame_writeRemnant b.rest _ b.modifier.nested).openFields

end Break

/-! ## Attempts -/

namespace Scene

variable {s : Scene} {w : Surroundings} {v : Value} {m : Modifier} {b : Break}

theorem breakPut?_eq_some (h : s.breakPut? w v m = some b) :
    b.field = none ∧ v.break? w s.shelf = some (b.rest, b.shelf) := by
  obtain ⟨⟨rest, shelf⟩, hv, rfl⟩ := Option.map_eq_some_iff.mp h
  exact ⟨rfl, hv⟩

/-- A field breaks off before anything is written, or inside of its parentheses. -/
theorem breakField?_eq_some {name : Option Text} (h : s.breakField? w name v m = some b) :
    (b.field = none ∧ b.rest = .nothing) ∨
      (b.field = name ∧ b.field.isSome = true ∧
        v.break? w (v.isBlank (w.when s.query.text) s.shelf).2 = some (b.rest, b.shelf)) := by
  unfold breakField? at h
  cases name with
  | none => cases h
  | some name =>
    by_cases hname : Text.isBlank name = true
    · simp only [hname, if_true] at h
      cases h
    · cases hlook : v.blankBreak? (w.when s.query.text) s.shelf with
      | some shelf =>
        simp only [hname, hlook] at h
        obtain rfl := Option.some.inj h
        exact .inl ⟨rfl, rfl⟩
      | none =>
        by_cases hblank : (v.isBlank (w.when s.query.text) s.shelf).1 = true
        · simp only [hname, hlook, hblank, if_true] at h
          cases h
        · simp only [hname, hlook, hblank] at h
          obtain ⟨⟨rest, shelf⟩, hv, rfl⟩ := Option.map_eq_some_iff.mp h
          exact .inr ⟨rfl, rfl, hv⟩

end Scene

namespace Call

variable {c : Call} {w : Surroundings} {s : Scene}

theorem attempt_of_break {b : Break} (h : c.breaks? w s = some b) :
    c.attempt w s = (.error .unwritable, b.scene s.query) := by
  rw [attempt, h]; rfl

theorem attempt_of_none (h : c.breaks? w s = none) :
    c.attempt w s = ((c.run w s).1.mapError .told, (c.run w s).2) := by
  rw [attempt, h]; rfl

theorem attempt_of_run {s' : Scene} {r : Except QueryError Unit} (hbreaks : c.breaks? w s = none)
    (hrun : c.run w s = (r, s')) : c.attempt w s = (r.mapError .told, s') := by
  rw [attempt_of_none hbreaks, hrun]

/-- Whatever comes of an attempt, the query grows, and its books stay right. -/
theorem exists_grew_attempt (w : Surroundings) (c : Call) (s : Scene) (hs : s.query.buffer.Sound) :
    ∃ t, s.query.Grew t (c.attempt w s).2.query := by
  cases h : c.breaks? w s with
  | some b => rw [attempt_of_break h]; exact b.exists_grew_scene hs
  | none => rw [attempt_of_none h]; exact exists_grew_run w c s hs

/-- All that a call is given may be written. -/
def IsWritable : Call → Prop
  | .argument v _ | .fuzzyArgument v _ _ | .field _ v _ _ _ | .fuzzyField _ v _ _ =>
    v.isWritable = true
  | .range start stop _ | .rangeField _ start stop _ =>
    start.isWritable = true ∧ stop.isWritable = true
  | .subquery _ _ | .startField _ _ | .endField | .boost _ | .unescaped _ _
  | .unescapedField _ _ _ | .setModifier _ | .setWildcarded _ => True

end Call

namespace Value

/-- Settling a value takes members away from the streams only. -/
theorem within_settled (v : Value) (s : Shelf) : (v.settled s).2.Within s := by
  unfold settled
  split
  · exact .refl s
  · exact (Shelf.Within.refl s).put (by simp)
  · exact .refl s

theorem isWritable_settled {v : Value} {s : Shelf} (hv : v.isWritable = true) (hs : s.IsWritable) :
    (v.settled s).1.isWritable = true := by
  unfold settled
  split
  · exact hv
  · rename_i place
    exact allWritable_iff.mpr (hs place)
  · exact hv

theorem boundsBreak_eq_false (qs : Queries) {start stop : Value} (hstart : start.isWritable = true)
    (hstop : stop.isWritable = true) : boundsBreak qs start stop = false := by
  simp [boundsBreak, hstart, hstop]

end Value

namespace Scene

variable {s : Scene} (w : Surroundings) {v : Value} (m : Modifier)

theorem breakPut?_eq_none (hv : v.isWritable = true) (hs : s.shelf.IsWritable) :
    s.breakPut? w v m = none := by
  rw [breakPut?, Value.break?_eq_none w hv hs]; rfl

theorem breakField?_eq_none (name : Option Text) (hv : v.isWritable = true)
    (hs : s.shelf.IsWritable) : s.breakField? w name v m = none := by
  unfold breakField?
  cases name with
  | none => rfl
  | some name =>
    have hlooked := Value.within_isBlank (w.when s.query.text) v (Shelf.Within.refl s.shelf)
    have hlook := Value.blankBreak?_eq_none (w.when s.query.text) hv hs
    have hwrite := Value.break?_eq_none w hv (hs.within hlooked)
    simp only [hlook, hwrite, Option.map_none, ite_self]

end Scene

namespace Call

variable {c : Call} {s : Scene}

/-- The value of a field is settled first. -/
theorem breakField?_settled (w : Surroundings) (s : Scene) (name : Option Text) {v : Value}
    (hv : v.isWritable = true) (hs : s.shelf.IsWritable) (m : Modifier) :
    (⟨s.query, (v.settled s.shelf).2⟩ : Scene).breakField? w name (v.settled s.shelf).1 m = none :=
  Scene.breakField?_eq_none w m name (Value.isWritable_settled hv hs)
    (hs.within (Value.within_settled v s.shelf))

/-- Nothing breaks off where everything may be written. -/
theorem breaks?_eq_none (w : Surroundings) (hc : c.IsWritable) (hs : s.shelf.IsWritable) :
    c.breaks? w s = none := by
  cases c with
  | argument v m => simp [breaks?, Scene.breakPut?_eq_none w _ hc hs]
  | fuzzyArgument v m f => simp [breaks?, Scene.breakPut?_eq_none w _ hc hs]
  | field name v m factor allMembers =>
    have hfield := breakField?_settled w s name hc hs
    cases hfactor : Boost.checkGiven factor with
    | error e => simp [breaks?, hfactor]
    | ok => simp [breaks?, hfactor, hfield]
  | fuzzyField name v m f =>
    have hfield := breakField?_settled w s name hc hs
    simp [breaks?, hfield]
  | range start stop m => simp [breaks?, Value.boundsBreak_eq_false _ hc.1 hc.2]
  | rangeField name start stop m => simp [breaks?, Value.boundsBreak_eq_false _ hc.1 hc.2]
  | _ => rfl

/-- **An attempt at what may be written** is a run. -/
theorem attempt_of_isWritable (w : Surroundings) (hc : c.IsWritable) (hs : s.shelf.IsWritable) :
    c.attempt w s = ((c.run w s).1.mapError .told, (c.run w s).2) :=
  attempt_of_none (breaks?_eq_none w hc hs)

end Call

/-! ## Runs -/

/-- All that a step is given may be written. -/
def Step.IsWritable (step : Step) : Prop := step.call.IsWritable ∧ step.shelf.IsWritable

namespace Query

variable {q : Query}

/-- Where the call of a step breaks off, if it does. -/
def breaks? (q : Query) (step : Step) : Option Break :=
  step.call.breaks? step.surroundings ⟨q, step.shelf⟩

/-- The query after an attempt at a step, whatever comes of it. -/
def afterAttempt (q : Query) (step : Step) : Query :=
  (step.call.attempt step.surroundings ⟨q, step.shelf⟩).2.query

/-- The query after a run of attempts. -/
def attempts (q : Query) (steps : List Step) : Query := steps.foldl afterAttempt q

/-- `q` is what a run of attempts makes of a new query. -/
def Attained (q : Query) : Prop :=
  ∃ (m : Option Modifier) (t : Text) (steps : List Step), q = (Query.new m t).attempts steps

/-- How many groups a step leaves open: those that its call breaks off in. -/
def unclosed (q : Query) (step : Step) : Nat := (q.breaks? step).elim 0 fun b => b.rest.depth

/-- Whether a step leaves a field open that its call opened for itself. -/
def leavesField (q : Query) (step : Step) : Bool := (q.breaks? step).any fun b => b.field.isSome

/-- A count that is taken of each step, added up along a run of attempts. -/
def total (count : Query → Step → Nat) : Query → List Step → Nat
  | _, [] => 0
  | q, step :: steps => count q step + total count (q.afterAttempt step) steps

/-- How many steps of a run of attempts are of a kind. -/
def times (kind : Query → Step → Bool) : Query → List Step → Nat :=
  total fun q step => if kind q step then 1 else 0

theorem afterAttempt_of_break {step : Step} {b : Break} (h : q.breaks? step = some b) :
    q.afterAttempt step = (b.scene q).query :=
  congrArg (·.2.query) (Call.attempt_of_break h)

theorem afterAttempt_of_none {step : Step} (h : q.breaks? step = none) :
    q.afterAttempt step = q.after step :=
  congrArg (·.2.query) (Call.attempt_of_none h)

theorem sound_afterAttempt (hq : q.buffer.Sound) (step : Step) :
    (q.afterAttempt step).buffer.Sound := by
  obtain ⟨t, ht⟩ := Call.exists_grew_attempt step.surroundings step.call ⟨q, step.shelf⟩ hq
  exact ht.sound

theorem sound_attempts (steps : List Step) (hq : q.buffer.Sound) :
    (q.attempts steps).buffer.Sound := by
  induction steps generalizing q with
  | nil => exact hq
  | cons step steps ih => exact ih (sound_afterAttempt hq step)

/-- **The books are right** also where calls broke off. -/
theorem Attained.sound (hq : q.Attained) : q.buffer.Sound := by
  obtain ⟨m, t, steps, rfl⟩ := hq
  exact sound_attempts steps (Buffer.sound_ofText t)

theorem breaks?_of_isWritable {step : Step} (h : step.IsWritable) : q.breaks? step = none :=
  Call.breaks?_eq_none (s := ⟨q, step.shelf⟩) step.surroundings h.1 h.2

/-- **Attempts at what may be written** are a run of calls. -/
theorem attempts_eq_run {steps : List Step} (h : ∀ step ∈ steps, step.IsWritable) :
    q.attempts steps = q.run steps := by
  induction steps generalizing q with
  | nil => rfl
  | cons step steps ih =>
    have hfirst : q.afterAttempt step = q.after step :=
      afterAttempt_of_none (breaks?_of_isWritable (h step List.mem_cons_self))
    have hrest := ih (q := q.after step) fun later hlater => h later (List.mem_cons_of_mem step hlater)
    show (q.afterAttempt step).attempts steps = (q.after step).run steps
    rw [hfirst, hrest]

/-- What is counted of steps that break off comes to nothing where everything may be written. -/
theorem total_eq_zero {count : Query → Step → Nat} {steps : List Step}
    (hcount : ∀ q step, q.breaks? step = none → count q step = 0)
    (h : ∀ step ∈ steps, step.IsWritable) : q.total count steps = 0 := by
  induction steps generalizing q with
  | nil => rfl
  | cons step steps ih =>
    have hfirst := hcount q step (breaks?_of_isWritable (h step List.mem_cons_self))
    have hrest := ih (q := q.afterAttempt step) fun later hlater =>
      h later (List.mem_cons_of_mem step hlater)
    rw [total, hfirst, hrest]

/-- Nothing is left open by steps that may write all that they are given. -/
theorem total_unclosed_eq_zero {steps : List Step} (h : ∀ step ∈ steps, step.IsWritable) :
    q.total unclosed steps = 0 :=
  total_eq_zero (fun q step hb => by rw [unclosed, hb]; rfl) h

theorem times_leavesField_eq_zero {steps : List Step} (h : ∀ step ∈ steps, step.IsWritable) :
    q.times leavesField steps = 0 :=
  total_eq_zero (fun q step hb => by rw [leavesField, hb]; rfl) h

end Query
end SearchQuery

/-
  Runs of calls only add text.

  1. **One call (`leaves_run`)** — a call that is refused leaves the query as it was.  A call that
     returns adds a text behind the old one; all calls but boosts and the two setters report whether
     that text is empty, and those three leave the last report as it is.  A call that reports leaves the
     default modifier alone (`modifier_run`).
  2. **Runs** — `Query.run` makes one call after the other.  Between two calls the queries and
     streams around may change in any way, so each step brings its own.  `Query.Reached` says that a
     query is what some run makes of a new one: these are the states that a query can be in.
  3. **The books stay right (`Reached.sound`)** — by induction on the run, from the single call.
-/
import SearchQuery.Proofs.Query.Outcome

namespace SearchQuery

/-! ## One call -/

/-- Whether a call reports if it wrote anything. -/
def Call.reports : Call → Bool
  | .boost _ | .setModifier _ | .setWildcarded _ => false
  | _ => true

/-- How a call leaves a query `q`: as it was, if it is refused; grown by a text, and with an honest
    report about it, if it returns. -/
def Call.Leaves (c : Call) (q : Query) : Except QueryError Unit × Scene → Prop
  | (.error _, s) => s.query = q
  | (.ok _, s) => ∃ t, if c.reports then q.Wrote t s.query
      else q.Grew t s.query ∧ s.query.succeeded = q.succeeded

namespace Call

variable {c : Call} {q : Query} {s : Scene}

theorem Leaves.of_ok {r : Except QueryError Unit × Scene} (h : c.Leaves q r) (hr : r.1 = .ok ()) :
    ∃ t, if c.reports then q.Wrote t r.2.query
      else q.Grew t r.2.query ∧ r.2.query.succeeded = q.succeeded := by
  obtain ⟨r, s⟩ := r
  obtain rfl : r = .ok () := hr
  exact h

theorem Leaves.of_error {r : Except QueryError Unit × Scene} {e : QueryError}
    (h : c.Leaves q r) (hr : r.1 = .error e) : r.2.query = q := by
  obtain ⟨r, s⟩ := r
  obtain rfl : r = .error e := hr
  exact h

theorem Leaves.wrote {t : Text} (hc : c.reports = true) (h : q.Wrote t s.query) :
    c.Leaves q (.ok (), s) :=
  ⟨t, by rw [if_pos hc]; exact h⟩

theorem Leaves.grew {t : Text} (hc : c.reports = false) (h : q.Grew t s.query)
    (hs : s.query.succeeded = q.succeeded) : c.Leaves q (.ok (), s) :=
  ⟨t, by rw [hc]; exact ⟨h, hs⟩⟩

/-- A call that is refused for its modifier only, and adds a text otherwise. -/
theorem Leaves.on {r : Except QueryError Modifier} {k : Modifier → Scene} (hc : c.reports = true)
    (hs : s.query = q) (h : ∀ m, ∃ t, q.Wrote t (k m).query) : c.Leaves q (s.on r k) := by
  cases r with
  | error e => exact hs
  | ok m =>
    obtain ⟨t, ht⟩ := h m
    exact Leaves.wrote hc ht

theorem wrote_put (hq : s.query.buffer.Sound) (w : Surroundings) (v : Value) (m : Modifier) :
    s.query.Wrote ((v.term w s.shelf).1.render s.query.text m) (s.put w v m).query :=
  Query.wrote_write _ s.query m hq

/-- A field adds nothing when it is skipped, and itself otherwise. -/
theorem wrote_putField (hq : s.query.buffer.Sound) (w : Surroundings) (name : Option Text)
    (v : Value) (m : Modifier) (factor : Option Number) :
    ∃ t, s.query.Wrote t (s.putField w name v m factor).query := by
  unfold Scene.putField
  cases name with
  | none => exact ⟨[], Query.wrote_skipped hq⟩
  | some name =>
    by_cases hname : Text.isBlank name = true
    · simp only [hname, if_true]
      exact ⟨[], Query.wrote_skipped hq⟩
    · simp only [hname]
      by_cases hblank : (v.isBlank (w.when s.query.text) s.shelf).1 = true
      · simp only [hblank, if_true]
        exact ⟨[], Query.wrote_skipped hq⟩
      · simp only [hblank]
        exact ⟨_, Query.wrote_writeField hq name m _ factor⟩

/-- **One call** is refused without a trace or adds a text and reports it. -/
theorem leaves_run (w : Surroundings) (c : Call) (s : Scene) (hs : s.query.buffer.Sound) :
    c.Leaves s.query (c.run w s) := by
  cases c with
  | argument v m =>
    rw [run_argument]
    exact Leaves.on rfl rfl fun m => ⟨_, wrote_put hs w v m⟩
  | fuzzyArgument v m f =>
    rw [run_fuzzyArgument]
    exact Leaves.on rfl rfl fun m => ⟨_, wrote_put hs w v m⟩
  | field name v m factor allMembers =>
    rw [run_field]
    cases Boost.checkGiven factor with
    | error e => exact rfl
    | ok =>
      exact Leaves.on rfl rfl fun m =>
        wrote_putField (s := ⟨s.query, (v.settled s.shelf).2⟩) hs w name _ m factor
  | fuzzyField name v m f =>
    rw [run_fuzzyField]
    cases m.resolveFuzzy s.query.modifier v.isGroup f with
    | error e => exact rfl
    | ok m =>
      obtain ⟨t, ht⟩ := wrote_putField (s := ⟨s.query, (v.settled s.shelf).2⟩) hs w name _ m none
      exact Leaves.wrote rfl ht
  | range start stop m =>
    rw [run_range]
    rcases Bound.check s.query.text (start.bound w) (stop.bound w) with e | _ | ⟨a, b⟩
    · exact rfl
    · exact Leaves.wrote rfl (Query.wrote_skipped hs)
    · exact Leaves.on rfl rfl fun m => ⟨_, Query.wrote_writeRange hs none a b m⟩
  | rangeField name start stop m =>
    rw [run_rangeField]
    rcases Bound.check s.query.text (start.bound w) (stop.bound w) with e | _ | ⟨a, b⟩
    · exact rfl
    · exact Leaves.wrote rfl (Query.wrote_skipped hs)
    · by_cases hname : Text.isMissing name = true
      · simp only [hname, if_true]
        exact Leaves.wrote rfl (Query.wrote_skipped hs)
      · simp only [hname]
        exact Leaves.on rfl rfl fun m => ⟨_, Query.wrote_writeRange hs name a b m⟩
  | subquery query m =>
    rw [run_subquery]
    exact Leaves.on rfl rfl fun m => ⟨_, wrote_put hs w _ m⟩
  | startField name m =>
    rw [run_startField]
    exact Leaves.on rfl rfl fun m => ⟨_, Query.wrote_startField hs name m⟩
  | endField =>
    rw [run_endField]
    cases s.query.openFields with
    | nil => exact rfl
    | cons field fields => exact Leaves.wrote rfl (Query.wrote_closeField hs fields)
  | boost f =>
    rw [run_boost]
    cases Boost.check f with
    | error e => exact rfl
    | ok => exact Leaves.grew rfl (Query.grew_writeBoost hs f) (Query.succeeded_writeBoost _ f)
  | unescaped t mandatory =>
    rw [run_unescaped]
    exact Leaves.wrote rfl (Query.wrote_writeUnescaped hs none t mandatory)
  | unescapedField name t mandatory =>
    rw [run_unescapedField]
    by_cases hname : Text.isMissing name = true
    · simp only [hname, if_true]
      exact Leaves.wrote rfl (Query.wrote_skipped hs)
    · simp only [hname]
      exact Leaves.wrote rfl (Query.wrote_writeUnescaped hs name t mandatory)
  | setModifier m =>
    rw [run_setModifier]
    cases m with
    | none => exact rfl
    | some m => exact Leaves.grew rfl ⟨(List.append_nil _).symm, hs⟩ rfl
  | setWildcarded on =>
    rw [run_setWildcarded]
    cases s.query.modifier.withWildcarded on with
    | error e => exact rfl
    | ok m => exact Leaves.grew rfl ⟨(List.append_nil _).symm, hs⟩ rfl

/-- Whether a call is refused or not, the query grows, and its books stay right. -/
theorem exists_grew_run (w : Surroundings) (c : Call) (s : Scene) (hs : s.query.buffer.Sound) :
    ∃ t, s.query.Grew t (c.run w s).2.query := by
  have h := leaves_run w c s hs
  cases hr : (c.run w s).1 with
  | error e => exact ⟨[], by rw [h.of_error hr]; exact Query.Grew.refl hs⟩
  | ok =>
    obtain ⟨t, ht⟩ := h.of_ok hr
    refine ⟨t, ?_⟩
    by_cases hc : c.reports = true
    · rw [if_pos hc] at ht; exact ht.toGrew
    · rw [if_neg hc] at ht; exact ht.1

theorem modifier_on {r : Except QueryError Modifier} {k : Modifier → Scene}
    (h : ∀ m, (k m).query.modifier = s.query.modifier) :
    (s.on r k).2.query.modifier = s.query.modifier := by
  cases r with
  | error e => rfl
  | ok m => exact h m

theorem modifier_putField (w : Surroundings) (s : Scene) (name : Option Text) (v : Value)
    (m : Modifier) (factor : Option Number) :
    (s.putField w name v m factor).query.modifier = s.query.modifier := by
  rcases s.query_putField_cases w name v m factor with h | ⟨n, t, h⟩
  · rw [h]; rfl
  · rw [h]; exact (Query.sameFrame_writeField _ _ _ _ _).modifier

/-- **The default modifier** is left alone by every call that reports if it wrote anything. -/
theorem modifier_run (w : Surroundings) (s : Scene) (hc : c.reports = true) :
    (c.run w s).2.query.modifier = s.query.modifier := by
  cases c with
  | argument v m =>
    rw [run_argument]
    exact modifier_on fun m => (Query.sameFrame_write _ _ m).modifier
  | fuzzyArgument v m f =>
    rw [run_fuzzyArgument]
    exact modifier_on fun m => (Query.sameFrame_write _ _ m).modifier
  | field name v m factor allMembers =>
    rw [run_field]
    cases Boost.checkGiven factor with
    | error e => rfl
    | ok => exact modifier_on (s := ⟨s.query, _⟩) fun m => modifier_putField w _ name _ m factor
  | fuzzyField name v m f =>
    rw [run_fuzzyField]
    cases m.resolveFuzzy s.query.modifier v.isGroup f with
    | error e => rfl
    | ok m => exact modifier_putField w _ name _ m none
  | range start stop m =>
    rw [run_range]
    rcases Bound.check s.query.text (start.bound w) (stop.bound w) with e | _ | ⟨a, b⟩
    · rfl
    · rfl
    · exact modifier_on fun m => rfl
  | rangeField name start stop m =>
    rw [run_rangeField]
    rcases Bound.check s.query.text (start.bound w) (stop.bound w) with e | _ | ⟨a, b⟩
    · rfl
    · rfl
    · by_cases hname : Text.isMissing name = true
      · simp only [hname, if_true]
        rfl
      · simp only [hname]
        exact modifier_on fun m => rfl
  | subquery query m =>
    rw [run_subquery]
    exact modifier_on fun m => (Query.sameFrame_write _ _ m).modifier
  | startField name m =>
    rw [run_startField]
    refine modifier_on fun m => ?_
    cases name with
    | none => rfl
    | some name =>
      simp only [Scene.change, Query.startField]
      split <;> rfl
  | endField =>
    rw [run_endField]
    cases s.query.openFields with
    | nil => rfl
    | cons field fields => exact Query.modifier_closeField s.query fields
  | unescaped t mandatory =>
    rw [run_unescaped]
    exact (Query.sameFrame_writeUnescaped s.query none t mandatory).modifier
  | unescapedField name t mandatory =>
    rw [run_unescapedField]
    simp only [Scene.change]
    split
    · rfl
    · exact (Query.sameFrame_writeUnescaped s.query name t mandatory).modifier
  | boost f => cases hc
  | setModifier m => cases hc
  | setWildcarded on => cases hc

end Call

/-! ## Runs -/

/-- One step of a run: a call, and what is around the query when it is made. -/
structure Step where
  surroundings : Surroundings
  shelf : Shelf
  call : Call

namespace Query

/-- The query after a step, whether its call is refused or not. -/
def after (q : Query) (step : Step) : Query :=
  (step.call.run step.surroundings ⟨q, step.shelf⟩).2.query

/-- The query after a run. -/
def run (q : Query) (steps : List Step) : Query := steps.foldl after q

/-- `q` is what a run makes of a new query. -/
def Reached (q : Query) : Prop :=
  ∃ (m : Option Modifier) (t : Text) (steps : List Step), q = (Query.new m t).run steps

theorem sound_run (steps : List Step) {q : Query} (hq : q.buffer.Sound) :
    (q.run steps).buffer.Sound := by
  induction steps generalizing q with
  | nil => exact hq
  | cons step steps ih =>
    obtain ⟨t, ht⟩ := Call.exists_grew_run step.surroundings step.call ⟨q, step.shelf⟩ hq
    exact ih ht.sound

/-- **The books are right** in every state that a query can be in. -/
theorem Reached.sound {q : Query} (hq : q.Reached) : q.buffer.Sound := by
  obtain ⟨m, t, steps, rfl⟩ := hq
  exact sound_run steps (Buffer.sound_ofText t)

/-! ## The text before and after a call -/

/-- **Append-only text and an honest report.**  In every state, and whatever a call is given, the
    old text begins the new one.  A call that returns reports a success exactly when the text became
    longer; a boost and the two setters leave the last report as it is. -/
theorem Reached.appends_and_reports {q : Query} (hq : q.Reached) (w : Surroundings)
    (shelf : Shelf) (c : Call) :
    let r := c.run w ⟨q, shelf⟩
    q.text <+: r.2.query.text ∧
      (c.reports = true → r.1 = .ok () →
        (r.2.query.succeeded = true ↔ q.text.length < r.2.query.text.length)) ∧
      (c.reports = false → r.2.query.succeeded = q.succeeded) := by
  intro r
  obtain ⟨t, ht⟩ := Call.exists_grew_run w c ⟨q, shelf⟩ hq.sound
  have h := Call.leaves_run w c ⟨q, shelf⟩ hq.sound
  refine ⟨⟨t, ht.text.symm⟩, fun hc hr => ?_, fun hc => ?_⟩
  · obtain ⟨u, hu⟩ := h.of_ok hr
    rw [if_pos hc] at hu
    rw [hu.succeeded, hu.text, List.length_append]
    cases u <;> simp
  · cases hr : r.1 with
    | error e => rw [h.of_error hr]
    | ok =>
      obtain ⟨u, hu⟩ := h.of_ok hr
      rw [hc] at hu
      exact hu.2

/-- A group that holds the receiver itself: the text written so far becomes a part of the clause. -/
theorem Reached.appends_and_reports_receiver :
    let w : Surroundings := ⟨⟨fun _ => [], fun _ => {}⟩, (· == .query 0)⟩
    let q := new none ['a']
    let c := Call.argument (.group .list [.text ['b'], .query (.query 0)]) .absent
    let r := c.run w ⟨q, []⟩
    q.Reached ∧ r.1 = .ok () ∧ r.2.query.text = "a(+(b) +(a(+(b) ) ) ".toList ∧
      q.text <+: r.2.query.text ∧
      (r.2.query.succeeded = true ↔ q.text.length < r.2.query.text.length) := by
  intro w q c r
  have hq : q.Reached := ⟨none, ['a'], [], rfl⟩
  have hr : r.1 = .ok () := rfl
  have h := hq.appends_and_reports w [] c
  exact ⟨hq, hr, by decide +kernel, h.1, h.2.1 rfl hr⟩

end Query
end SearchQuery

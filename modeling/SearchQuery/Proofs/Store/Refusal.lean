/-
  A refused call leaves no trace.

  Every check of a call stands in front of everything that it writes.  What is refused may have read
  from a stream, but no text, default modifier, report, open field or lock is other than before.  Only
  an integer that is too long is met while a call writes, and then the call breaks off.

  1. **Steps (`Scene.Traceless`)** — a step that is refused leaves the query alone: one that only
     checks does, and one that first finds its modifier.
  2. **Fields (`Call.run_of_fieldCheck`)** — a field is refused exactly for what is checked before it
     is opened, and what it opens it closes, with or without a boost.
  3. **Calls and single clauses (`Call.traceless_run`, `Clause.traceless_perform`)** — one case for
     each call.
  4. **Sessions (`Session.refused_without_trace`)** — a lock refuses before anything is looked at,
     and a query that refuses is put back as it was.
-/
import SearchQuery.Proofs.Query.Attempt
import SearchQuery.Proofs.Store.Lock

namespace SearchQuery

/-! ## Steps -/

/-- What was done in a scene leaves the query alone if it was refused. -/
def Scene.Traceless (s : Scene) (r : Except QueryError Unit × Scene) : Prop :=
  ∀ e, r.1 = .error e → r.2.query = s.query

namespace Scene

variable {s : Scene}

theorem traceless_ok (s s' : Scene) : s.Traceless (.ok (), s') := by
  intro e he
  cases he

theorem traceless_refused {s' : Scene} (h : s'.query = s.query) (e : QueryError) :
    s.Traceless (.error e, s') :=
  fun _ _ => h

theorem traceless_on {s' : Scene} (h : s'.query = s.query) (r : Except QueryError Modifier)
    (k : Modifier → Scene) : s.Traceless (s'.on r k) := by
  cases r with
  | error e => exact traceless_refused h e
  | ok m => exact traceless_ok s (k m)

end Scene

/-! ## Fields -/

/-- What a field is checked for, in the order in which it is: its boost, then its modifier. -/
def Call.checkField (standard : Modifier) (group : Bool) (m : ModifierArg) (factor : Option Number)
    (allMembers : Option Bool) : Except QueryError Unit := do
  Boost.checkGiven factor
  let _ ← m.resolveField standard group allMembers

/-- What a call that writes a field is checked for before the field is opened. -/
def Call.fieldCheck? (standard : Modifier) : Call → Option (Except QueryError Unit)
  | .field _ v m factor allMembers =>
    some (Call.checkField standard v.isGroup m factor allMembers)
  | .fuzzyField _ v m f => some ((m.resolveFuzzy standard v.isGroup f).map fun _ => ())
  | _ => none

/-- **A field** is refused exactly for what is checked before it is opened, and closes what it opens. -/
theorem Call.run_of_fieldCheck {c : Call} {s : Scene} {checked : Except QueryError Unit}
    (hc : c.fieldCheck? s.query.modifier = some checked) (w : Surroundings) :
    (c.run w s).1 = checked ∧ (c.run w s).2.query.openFields = s.query.openFields := by
  cases c with
  | field name v m factor allMembers =>
    obtain rfl := Option.some.inj hc
    rw [run_field]
    cases hfactor : Boost.checkGiven factor with
    | error e => simp only [Call.checkField, hfactor]; exact ⟨rfl, trivial⟩
    | ok =>
      cases hm : m.resolveField s.query.modifier v.isGroup allMembers with
      | error e => simp only [Call.checkField, hfactor, hm]; exact ⟨rfl, rfl⟩
      | ok m' =>
        simp only [Call.checkField, hfactor, hm]
        exact ⟨rfl, Scene.openFields_putField ⟨s.query, _⟩ w name _ m' factor⟩
  | fuzzyField name v m f =>
    obtain rfl := Option.some.inj hc
    rw [run_fuzzyField]
    cases hm : m.resolveFuzzy s.query.modifier v.isGroup f with
    | error e => exact ⟨rfl, rfl⟩
    | ok m' => exact ⟨rfl, Scene.openFields_putField ⟨s.query, _⟩ w name _ m' none⟩
  | _ => cases hc

/-! ## Calls and single clauses -/

/-- **A refused call** leaves the query alone. -/
theorem Call.traceless_run (w : Surroundings) (c : Call) (s : Scene) : s.Traceless (c.run w s) := by
  cases c with
  | argument v m => rw [run_argument]; exact Scene.traceless_on rfl _ _
  | fuzzyArgument v m f => rw [run_fuzzyArgument]; exact Scene.traceless_on rfl _ _
  | field name v m factor allMembers =>
    rw [run_field]
    cases Boost.checkGiven factor with
    | error e => exact Scene.traceless_refused rfl e
    | ok => exact Scene.traceless_on rfl _ _
  | fuzzyField name v m f =>
    rw [run_fuzzyField]
    cases m.resolveFuzzy s.query.modifier v.isGroup f with
    | error e => exact Scene.traceless_refused rfl e
    | ok m => exact Scene.traceless_ok s _
  | range start stop m =>
    rw [run_range]
    rcases Bound.check s.query.text (start.bound w) (stop.bound w) with e | _ | ⟨a, b⟩
    · exact Scene.traceless_refused rfl e
    · exact Scene.traceless_ok s _
    · exact Scene.traceless_on rfl _ _
  | rangeField name start stop m =>
    rw [run_rangeField]
    rcases Bound.check s.query.text (start.bound w) (stop.bound w) with e | _ | ⟨a, b⟩
    · exact Scene.traceless_refused rfl e
    · exact Scene.traceless_ok s _
    · by_cases hname : Text.isMissing name = true
      · simp only [hname, if_true]
        exact Scene.traceless_ok s _
      · simp only [hname]
        exact Scene.traceless_on rfl _ _
  | subquery query m => rw [run_subquery]; exact Scene.traceless_on rfl _ _
  | startField name m => rw [run_startField]; exact Scene.traceless_on rfl _ _
  | endField =>
    rw [run_endField]
    cases s.query.openFields with
    | nil => exact Scene.traceless_refused rfl _
    | cons field fields => exact Scene.traceless_ok s _
  | boost f =>
    rw [run_boost]
    cases Boost.check f with
    | error e => exact Scene.traceless_refused rfl e
    | ok => exact Scene.traceless_ok s _
  | unescaped t mandatory => rw [run_unescaped]; exact Scene.traceless_ok s _
  | unescapedField name t mandatory => rw [run_unescapedField]; exact Scene.traceless_ok s _
  | setModifier m =>
    rw [run_setModifier]
    cases m with
    | none => exact Scene.traceless_refused rfl _
    | some m => exact Scene.traceless_ok s _
  | setWildcarded on => rw [run_setWildcarded]; exact Scene.traceless_on rfl _ _

/-- A single clause is never refused. -/
theorem Clause.traceless_perform (w : Surroundings) (m : Option Modifier) (c : Clause) (s : Scene) :
    s.Traceless ((c.perform w m).outcome s) := by
  cases m with
  | none => exact Scene.traceless_ok s _
  | some m => cases c <;> exact Scene.traceless_ok s _

/-! ## Sessions -/

/-- Two stores that may differ in their streams only. -/
structure Store.SameBooks (s s' : Store) : Prop where
  queries : s'.queries = s.queries
  templates : s'.templates = s.templates

theorem Store.SameBooks.refl (s : Store) : s.SameBooks s := ⟨rfl, rfl⟩

/-- What breaks off ends with a fault of its own; so anything else that is told was not broken off. -/
theorem of_attempted_error {α σ : Type} {broken : Option σ} {done : Except QueryError α × σ}
    {e : QueryError} (he : (attempted broken done).1 = .error e) (hne : e ≠ .unwritable) :
    (attempted broken done).2 = done.2 ∧ ∃ e', done.1 = .error e' := by
  cases broken with
  | some s => exact absurd (Except.error.inj he).symm hne
  | none =>
    obtain ⟨r, s⟩ := done
    cases r with
    | error e' => exact ⟨rfl, e', rfl⟩
    | ok a => cases he

/-- Through a handle that is open, an attempt ends as it does on the query. -/
theorem Store.fst_attempt_of_open {s : Store} {h : Handle} (hopen : s.isLocked h = false) (c : Call) :
    (s.attempt h c).1 = (c.attempt (s.around h) ⟨s.query h, s.shelf⟩).1 := by
  have hcall := congrArg Prod.fst (Store.call_of_open hopen c)
  unfold attempt breakCall? breaks?
  rw [if_neg (by simp [hopen])]
  cases hb : c.breaks? (s.around h) ⟨s.query h, s.shelf⟩ with
  | some b =>
    rw [Call.attempt_of_break hb]
    simp only [hb]
    rfl
  | none =>
    rw [Call.attempt_of_none hb]
    simp only [hb]
    exact congrArg (Except.mapError QueryError.told) hcall

/-- What leaves the query alone if it is refused leaves all queries and templates alone. -/
theorem Store.sameBooks_onQuery (s : Store) (h : Handle) {c : Calling Unit}
    (hc : Scene.Traceless ⟨s.query h, s.shelf⟩ (c.outcome ⟨s.query h, s.shelf⟩)) {e : QueryError}
    (he : (s.onQuery h c).1 = .error e) : s.SameBooks (s.onQuery h c).2 := by
  unfold Store.onQuery at he ⊢
  cases hlocked : s.isLocked h with
  | true => exact .refl s
  | false =>
    rw [hlocked] at he
    have hback : (c.outcome ⟨s.query h, s.shelf⟩).2.query = s.query h := hc e he
    refine ⟨?_, rfl⟩
    show s.queries.set h.terminal (c.outcome ⟨s.query h, s.shelf⟩).2.query = s.queries
    rw [hback, Store.query]
    -- A slot that does not exist is read as a new query, and setting it does nothing.
    by_cases hlt : h.terminal < s.queries.length
    · simp [List.getElem?_eq_getElem hlt]
    · exact List.set_eq_of_length_le (Nat.le_of_not_lt hlt)

/-- So does an attempt that is refused and does not break off. -/
theorem Store.sameBooks_attempted (s : Store) (h : Handle) {c : Calling Unit} (broken : Option Store)
    (hc : Scene.Traceless ⟨s.query h, s.shelf⟩ (c.outcome ⟨s.query h, s.shelf⟩)) {e : QueryError}
    (hne : e ≠ .unwritable) (he : (attempted broken (s.onQuery h c)).1 = .error e) :
    s.SameBooks (attempted broken (s.onQuery h c)).2 := by
  obtain ⟨hstore, e', he'⟩ := of_attempted_error he hne
  rw [hstore]
  exact s.sameBooks_onQuery h hc he'

namespace Session

/-- Performs an action as it really goes: calls and single clauses may break off. -/
def attempt (S : Session) : Action → Except QueryError Unit × Session
  | .call h c => S.through h (·.attempt h c)
  | .clause h c m => S.through h (·.attemptClause h c m)
  | a => S.perform a

/-- What is refused through a handle changes no more than what it does to the store. -/
theorem sameBooks_through (S : Session) (h : Handle)
    {f : Store → Except QueryError Unit × Store} {e : QueryError}
    (hf : (f S.store).1 = .error e → S.store.SameBooks (f S.store).2)
    (he : (S.through h f).1 = .error e) :
    S.store.SameBooks (S.through h f).2.store ∧ (S.through h f).2.handles = S.handles := by
  unfold through at he ⊢
  by_cases hh : h ∈ S.handles
  · rw [if_pos hh] at he ⊢
    exact ⟨hf he, rfl⟩
  · rw [if_neg hh] at he
    cases he

/-- An attempt that is refused and does not break off changes nothing but streams. -/
theorem sameBooks_attempt (S : Session) (a : Action) {e : QueryError} (hne : e ≠ .unwritable)
    (he : (S.attempt a).1 = .error e) :
    S.store.SameBooks (S.attempt a).2.store ∧ (S.attempt a).2.handles = S.handles := by
  cases a with
  | newQuery m t => cases he
  | newTemplate r => cases he
  | newStream members => cases he
  | forward target => cases he
  | call h c =>
    exact S.sameBooks_through h
      (Store.sameBooks_attempted S.store h _ (c.traceless_run _ _) hne) he
  | clause h c m =>
    exact S.sameBooks_through h
      (Store.sameBooks_attempted S.store h _ (c.traceless_perform _ m _) hne) he
  | lock h =>
    cases h with
    | template slot inner =>
      refine S.sameBooks_through (.template slot inner) ?_ he
      intro he'
      cases he'
    | query slot => cases he
    | forwarder target => cases he
  | build h => cases h <;> cases he

/-- **What is refused leaves no trace.**  Whatever the session, the action and the fault, apart from
    an integer that is too long: all queries are as they were, with their texts, default modifiers,
    reports and open fields, and so are all templates with their locks; no handle was given out.
    A call that writes a field, through a handle that is open, is refused exactly for what is checked
    before the field is opened, and closes what it opens, unless it breaks off; then the field stays
    open that it is in.  It does not break off where all values may be written. -/
theorem refused_without_trace (S : Session) :
    (∀ a e, (S.attempt a).1 = .error e → e ≠ .unwritable →
      S.store.SameBooks (S.attempt a).2.store ∧ (S.attempt a).2.handles = S.handles) ∧
    ∀ h c checked, S.store.isLocked h = false →
      c.fieldCheck? (S.store.modifier h) = some checked →
      let s : Scene := ⟨S.store.query h, S.store.shelf⟩
      let r := c.attempt (S.store.around h) s
      (S.store.attempt h c).1 = r.1 ∧
        (c.breaks? (S.store.around h) s = none →
          r.1 = checked.mapError QueryError.told ∧ r.2.query.openFields = s.query.openFields) ∧
        (∀ b, c.breaks? (S.store.around h) s = some b →
          r.1 = .error .unwritable ∧
            r.2.query.openFields = b.field.toList ++ s.query.openFields) ∧
        (c.IsWritable → S.store.shelf.IsWritable → c.breaks? (S.store.around h) s = none) := by
  refine ⟨fun a e he hne => S.sameBooks_attempt a hne he, ?_⟩
  intro h c checked hopen hchecked s r
  refine ⟨Store.fst_attempt_of_open hopen c, ?_, ?_, fun hc hs => Call.breaks?_eq_none _ hc hs⟩
  · intro hb
    obtain ⟨hrun, hfields⟩ := Call.run_of_fieldCheck (s := s) hchecked (S.store.around h)
    have hr : r = _ := Call.attempt_of_none hb
    rw [hr, hrun]
    exact ⟨rfl, hfields⟩
  · intro b hb
    have hr : r = _ := Call.attempt_of_break hb
    rw [hr]
    exact ⟨rfl, b.openFields_scene _⟩

/-- A boost that is out of range, through a forwarder and with a field open that has no value. -/
theorem refused_without_trace_boost :
    let h := Handle.forwarder (.query 0)
    let S := ({} : Session).run [.newQuery none [], .forward (.query 0),
      .call h (.startField (some ['f']) .absent)]
    let a := Action.call h (.field (some ['g']) (.text ['x']) .absent (some (.int 0)) none)
    let c := Call.field (some ['g']) (.text ['x']) .absent (some (.int 2)) none
    let r := c.attempt (S.store.around h) ⟨S.store.query h, S.store.shelf⟩
    (S.attempt a).1 = .error (.invalidBoost (.int 0)) ∧
      (S.attempt a).2.store.text h = "f:(".toList ∧
      (S.store.attempt h c).1 = .ok () ∧ r.2.query.openFields = [['f']] := by
  intro h S a c r
  have htext : S.store.text h = "f:(".toList := by decide +kernel
  have hfields : (S.store.query h).openFields = [['f']] := by decide +kernel
  have hempty : S.store.shelf = [] := List.length_eq_zero_iff.mp (by decide +kernel)
  have hshelf : S.store.shelf.IsWritable := by rw [hempty]; exact Shelf.isWritable_nil
  obtain ⟨hrefused, hfield⟩ := S.refused_without_trace
  have hzero : Boost.check (.int 0) = .error (.invalidBoost (.int 0)) := by
    unfold Boost.check; rw [if_neg (by decide +kernel)]
  have htwo : Boost.check (.int 2) = .ok () := by
    unfold Boost.check; rw [if_pos (by decide +kernel)]
  have hrefusal : ∀ standard group, Call.checkField standard group .absent (some (.int 0)) none
      = .error (.invalidBoost (.int 0)) := by
    intro standard group
    simp only [Call.checkField, Boost.checkGiven, hzero]
    rfl
  have hpassed : ∀ standard group, Call.checkField standard group .absent (some (.int 2)) none
      = .ok () := by
    intro standard group
    simp only [Call.checkField, Boost.checkGiven, htwo]
    rfl
  have htold : QueryError.told (.invalidBoost (.int 0)) = .invalidBoost (.int 0) := by decide +kernel
  have he : (S.attempt a).1 = .error (.invalidBoost (.int 0)) := by
    have hh : h ∈ S.handles := by decide +kernel
    obtain ⟨hsame, hthrough, -, hnone⟩ := hfield h
      (.field (some ['g']) (.text ['x']) .absent (some (.int 0)) none) _ rfl rfl
    have hchecked := (hthrough (hnone rfl hshelf)).1
    rw [hrefusal] at hchecked
    simp only [a, attempt, through, if_pos hh, hsame, hchecked]
    exact congrArg Except.error htold
  obtain ⟨hsame, hthrough, -, hnone⟩ := hfield h c _ rfl rfl
  obtain ⟨hchecked, hclosed⟩ := hthrough (hnone rfl hshelf)
  rw [hpassed] at hchecked
  refine ⟨he, ?_, hsame.trans hchecked, ?_⟩
  · rw [← htext]
    have hbooks := (hrefused a _ he (by simp)).1
    show (Store.query _ h).text = (Store.query _ h).text
    rw [Store.query, Store.query, hbooks.queries]
  · have hr : r = c.attempt (S.store.around h) ⟨S.store.query h, S.store.shelf⟩ := rfl
    rw [hr, hclosed]
    exact hfields

/-- A call that meets an integer that is too long is refused in the field that it opened, and leaves
    that open. -/
theorem refused_in_open_field :
    let tooLong : Value := .scalar (.number (.int (Nat.pow 10 4300)))
    let c := Call.field (some ['f']) (.group .list [.text ['a'], tooLong]) .absent none none
    let S := ({} : Session).run [.newQuery none []]
    let S' := (S.attempt (.call (.query 0) c)).2
    c.fieldCheck? (S.store.modifier (.query 0)) = some (.ok ()) ∧
      (S.attempt (.call (.query 0) c)).1 = .error .unwritable ∧
      S'.store.text (.query 0) = "f:(".toList ∧
      (S'.store.query (.query 0)).openFields = [['f']] := by
  intro tooLong c S S'
  have hchecked : c.fieldCheck? (S.store.modifier (.query 0)) = some (.ok ()) := rfl
  have hbreaks : (c.breaks? (S.store.around (.query 0)) ⟨S.store.query (.query 0), S.store.shelf⟩).isSome
      = true := by decide +kernel
  obtain ⟨b, hb⟩ := Option.isSome_iff_exists.mp hbreaks
  refine ⟨hchecked, ?_, by decide +kernel, by decide +kernel⟩
  have hh : Handle.query 0 ∈ S.handles := by decide +kernel
  simp only [attempt, through, if_pos hh]
  rw [Store.fst_attempt_of_open rfl, Call.attempt_of_break hb]

end Session
end SearchQuery

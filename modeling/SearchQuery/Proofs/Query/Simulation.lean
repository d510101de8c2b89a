/-
  Two queries that show the same go on showing the same.

  What a call does to a query depends on its text, its default modifier and, for a boost, on whether
  the last call wrote anything.  How many fields are open only matters to the call that closes one.
  So a query that was made from another one by copying what it shows can follow it from then on.

  1. **Following (`Query.Follows`)** — the second query shows what the first one shows, and has some
     number of fields less open.
  2. **Writers** — whatever adds the same text to both keeps them together; closing a field does,
     too, as long as both have one to close.
  3. **One call (`Call.alike_run`)** — both are refused for the same or neither is, the same streams
     are read, and the second query still follows the first.  The call must not refer to either of
     them: in a group it would show the one text before and the other text after a change.
-/
import SearchQuery.Proofs.Query.Balance
import SearchQuery.Proofs.Value.Agreement

namespace SearchQuery

/-! ## Following -/

/-- `q'` shows what `q` shows, and has `k` fields less open.  Where `reporting` says so, it also
    reports the same of the last call. -/
structure Query.Follows (reporting : Bool) (k : Nat) (q q' : Query) : Prop where
  text : q'.text = q.text
  modifier : q'.modifier = q.modifier
  openFields : q.openFields.length = q'.openFields.length + k
  succeeded : reporting = true → q'.succeeded = q.succeeded
  sound : q.buffer.Sound
  sound' : q'.buffer.Sound

/-- Two queries that cannot be told apart: they show the same text and default modifier, report the
    same of the last call, and have as many fields open. -/
structure Query.Matches (q q' : Query) : Prop where
  text : q'.text = q.text
  modifier : q'.modifier = q.modifier
  succeeded : q'.succeeded = q.succeeded
  openFields : q'.openFields.length = q.openFields.length

theorem Query.Follows.matches {q q' : Query} (h : q.Follows true 0 q') : q.Matches q' :=
  ⟨h.text, h.modifier, h.succeeded rfl, h.openFields.symm⟩

theorem Query.Matches.follows {q q' : Query} (h : q.Matches q') (hq : q.buffer.Sound)
    (hq' : q'.buffer.Sound) : q.Follows true 0 q' :=
  ⟨h.text, h.modifier, h.openFields.symm, fun _ => h.succeeded, hq, hq'⟩

/-- The query of a scene follows that of another one, and the same streams are left of those on a
    shelf. -/
structure Scene.Follows (reporting : Bool) (k : Nat) (s₀ : Shelf) (s s' : Scene) : Prop where
  query : s.query.Follows reporting k s'.query
  shelf : s'.shelf = s.shelf
  within : s.shelf.Within s₀

/-- Two calls end alike: in the same way, and in scenes of which one follows the other. -/
structure Scene.Alike (reporting : Bool) (k : Nat) (s₀ : Shelf)
    (r r' : Except QueryError Unit × Scene) : Prop where
  outcome : r'.1 = r.1
  scene : r.2.Follows reporting k s₀ r'.2

namespace Query

variable {reporting : Bool} {k : Nat} {q q' r r' : Query} {t : Text}

/-! ## Writers -/

/-- Two queries to which the same text is added. -/
theorem Follows.grew (h : q.Follows reporting k q') (hr : q.Grew t r) (hr' : q'.Grew t r')
    (hframe : q.SameFrame r) (hframe' : q'.SameFrame r')
    (hsucceeded : reporting = true → r'.succeeded = r.succeeded) : r.Follows reporting k r' where
  text := by rw [hr'.text, hr.text, h.text]
  modifier := by rw [hframe'.modifier, hframe.modifier, h.modifier]
  openFields := by rw [hframe'.openFields, hframe.openFields, h.openFields]
  succeeded := hsucceeded
  sound := hr.sound
  sound' := hr'.sound

/-- Two queries that the same is written into. -/
theorem Follows.wrote (h : q.Follows reporting k q') (hr : q.Wrote t r) (hr' : q'.Wrote t r')
    (hframe : q.SameFrame r) (hframe' : q'.SameFrame r') : r.Follows reporting k r' :=
  h.grew hr.toGrew hr'.toGrew hframe hframe' fun _ => by rw [hr'.succeeded, hr.succeeded]

theorem Follows.skipped (h : q.Follows reporting k q') :
    q.skipped.Follows reporting k q'.skipped :=
  h.wrote (wrote_skipped h.sound) (wrote_skipped h.sound') ⟨rfl, rfl⟩ ⟨rfl, rfl⟩

theorem Follows.write (h : q.Follows reporting k q') (m : Modifier) (t : Term) :
    (q.write m t).Follows reporting k (q'.write m t) := by
  have hwrote' := wrote_write t q' m h.sound'
  rw [h.text] at hwrote'
  exact h.wrote (wrote_write t q m h.sound) hwrote' (sameFrame_write t q m) (sameFrame_write t q' m)

theorem Follows.writeField (h : q.Follows reporting k q') (name : Text) (m : Modifier) (t : Term)
    (factor : Option Number) :
    (q.writeField name m t factor).Follows reporting k (q'.writeField name m t factor) := by
  have hwrote' := wrote_writeField h.sound' name m t factor
  rw [h.text] at hwrote'
  exact h.wrote (wrote_writeField h.sound name m t factor) hwrote'
    (sameFrame_writeField q name m t factor) (sameFrame_writeField q' name m t factor)

theorem Follows.writeRange (h : q.Follows reporting k q') (field : Option Text)
    (start stop : Bound) (m : Modifier) :
    (q.writeRange field start stop m).Follows reporting k (q'.writeRange field start stop m) := by
  have hwrote' := wrote_writeRange h.sound' field start stop m
  rw [h.text] at hwrote'
  exact h.wrote (wrote_writeRange h.sound field start stop m) hwrote' ⟨rfl, rfl⟩ ⟨rfl, rfl⟩

theorem Follows.writeUnescaped (h : q.Follows reporting k q') (field text : Option Text)
    (mandatory : Bool) :
    (q.writeUnescaped field text mandatory).Follows reporting k
      (q'.writeUnescaped field text mandatory) :=
  h.wrote (wrote_writeUnescaped h.sound field text mandatory)
    (wrote_writeUnescaped h.sound' field text mandatory)
    (sameFrame_writeUnescaped q field text mandatory)
    (sameFrame_writeUnescaped q' field text mandatory)

/-- A boost asks what was reported of the call before, so that must be the same. -/
theorem Follows.writeBoost (h : q.Follows true k q') (f : Number) :
    (q.writeBoost f).Follows true k (q'.writeBoost f) := by
  have hreport : q'.succeeded = q.succeeded := h.succeeded rfl
  have hgrew' := grew_writeBoost h.sound' f
  rw [hreport] at hgrew'
  refine h.grew (grew_writeBoost h.sound f) hgrew' (sameFrame_writeBoost q f)
    (sameFrame_writeBoost q' f) fun _ => ?_
  rw [succeeded_writeBoost, succeeded_writeBoost, hreport]

/-- A field that is opened in both is one more in both. -/
theorem Follows.startField (h : q.Follows reporting k q') (name : Option Text) (m : Modifier) :
    (q.startField name m).Follows reporting k (q'.startField name m) := by
  cases name with
  | none => exact h.skipped
  | some name =>
    by_cases hname : Text.isBlank name = true
    · simpa [Query.startField, hname] using h.skipped
    · have hopened := wrote_openField h.sound name m
      have hopened' := wrote_openField h.sound' name m
      have hboth : (q.openField name m).Follows reporting k (q'.openField name m) := by
        refine ⟨?_, h.modifier, ?_, fun _ => rfl, hopened.sound, hopened'.sound⟩
        · rw [hopened'.text, hopened.text, h.text]
        · show q.openFields.length + 1 = q'.openFields.length + 1 + k
          rw [h.openFields]; omega
      simpa [Query.startField, hname] using hboth

/-- A field that is closed in both is one less in both. -/
theorem Follows.closeField (h : q.Follows reporting k q') {fields fields' : List Text}
    (hfields : fields.length = fields'.length + k) :
    (q.closeField fields).Follows reporting k (q'.closeField fields') := by
  have hclosed := wrote_closeField h.sound fields
  have hclosed' := wrote_closeField h.sound' fields'
  refine ⟨?_, ?_, ?_, fun _ => ?_, hclosed.sound, hclosed'.sound⟩
  · rw [hclosed'.text, hclosed.text, h.text]
  · rw [modifier_closeField, modifier_closeField, h.modifier]
  · rw [openFields_closeField, openFields_closeField, hfields]
  · rw [hclosed'.succeeded, hclosed.succeeded, h.text]

theorem Follows.setModifier (h : q.Follows reporting k q') (m : Modifier) :
    Follows reporting k { q with modifier := m } { q' with modifier := m } :=
  ⟨h.text, rfl, h.openFields, h.succeeded, h.sound, h.sound'⟩

end Query

/-! ## One call -/

namespace Scene

variable {reporting : Bool} {k : Nat} {s₀ : Shelf} {s s' : Scene} {p : Handle → Bool}
  {w w' : Surroundings}

theorem Follows.change (h : s.Follows reporting k s₀ s') {f f' : Query → Query}
    (hf : (f s.query).Follows reporting k (f' s'.query)) :
    (s.change f).Follows reporting k s₀ (s'.change f') :=
  ⟨hf, h.shelf, h.within⟩

/-- A value that refers to neither receiver is written into both. -/
theorem Follows.put (h : s.Follows reporting k s₀ s') (hw : w.AgreeBut p w') {v : Value}
    (hv : ¬ v.Refers p s₀) (m : Modifier) :
    (s.put w v m).Follows reporting k s₀ (s'.put w' v m) := by
  obtain ⟨hterm, hwithin⟩ := Value.term_congr hw h.within hv
  have hsame : v.term w' s'.shelf = v.term w s.shelf := by rw [h.shelf]; exact hterm
  refine ⟨?_, ?_, hwithin⟩
  · show (s.query.write m (v.term w s.shelf).1).Follows reporting k
      (s'.query.write m (v.term w' s'.shelf).1)
    rw [hsame]
    exact h.query.write m _
  · show (v.term w' s'.shelf).2 = (v.term w s.shelf).2
    rw [hsame]

/-- Settling a value leaves the same behind. -/
theorem Follows.settle (h : s.Follows reporting k s₀ s') {v : Value} (hv : ¬ v.Refers p s₀) :
    let settled : Scene := ⟨s.query, (v.settled s.shelf).2⟩
    let settled' : Scene := ⟨s'.query, (v.settled s.shelf).2⟩
    settled.Follows reporting k s₀ settled' :=
  ⟨h.query, rfl, (Value.not_refers_settled h.within hv).2⟩

/-- A look at the value decides in both whether the field is opened. -/
theorem Follows.putField (h : s.Follows reporting k s₀ s') (hw : w.AgreeBut p w') {v : Value}
    (hv : ¬ v.Refers p s₀) (name : Option Text) (m : Modifier) (factor : Option Number) :
    (s.putField w name v m factor).Follows reporting k s₀ (s'.putField w' name v m factor) := by
  have hagree := hw.when s.query.text s'.query.text
  have hlook := Value.isBlank_congr hagree h.within hv
  have hlooked : v.isBlank (w'.when s'.query.text) s'.shelf
      = v.isBlank (w.when s.query.text) s.shelf := by rw [h.shelf]; exact hlook
  have hleft := Value.within_isBlank (w.when s.query.text) v h.within
  cases name with
  | none => exact h.change h.query.skipped
  | some name =>
    by_cases hname : Text.isBlank name = true
    · simpa [Scene.putField, hname] using h.change h.query.skipped
    · cases hblank : (v.isBlank (w.when s.query.text) s.shelf).1 with
      | true =>
        simp only [Scene.putField, hname, hlooked, hblank, if_true]
        exact ⟨h.query.skipped, rfl, hleft⟩
      | false =>
        obtain ⟨hterm, hwithin⟩ := Value.term_congr hw hleft hv
        simp only [Scene.putField, hname, hlooked, hblank, hterm, Bool.false_eq_true, if_false]
        exact ⟨h.query.writeField name m _ factor, rfl, hwithin⟩

/-- Calls that return and change both queries. -/
theorem Follows.returns (h : s.Follows reporting k s₀ s') {f f' : Query → Query}
    (hf : (f s.query).Follows reporting k (f' s'.query)) :
    Alike reporting k s₀ (.ok (), s.change f) (.ok (), s'.change f') :=
  ⟨rfl, h.change hf⟩

/-- Calls that are refused for the same modifiers. -/
theorem Follows.on (h : s.Follows reporting k s₀ s') (r : Except QueryError Modifier)
    {c c' : Modifier → Scene} (hc : ∀ m, (c m).Follows reporting k s₀ (c' m)) :
    Alike reporting k s₀ (s.on r c) (s'.on r c') := by
  cases r with
  | error e => exact ⟨rfl, h⟩
  | ok m => exact ⟨rfl, hc m⟩

end Scene

namespace Call

/-- The values that a call is given. -/
def values : Call → List Value
  | .argument v _ | .fuzzyArgument v _ _ | .field _ v _ _ _ | .fuzzyField _ v _ _ => [v]
  | .range start stop _ | .rangeField _ start stop _ => [start, stop]
  | .subquery (some h) _ => [.query h]
  | _ => []

/-- What a call is given refers to no query of a certain kind. -/
def Avoids (p : Handle → Bool) (s : Shelf) (c : Call) : Prop := ∀ v ∈ c.values, ¬ v.Refers p s

/-- Whether a call boosts the clause before it. -/
def isBoost : Call → Bool
  | .boost _ => true
  | _ => false

variable {reporting : Bool} {k : Nat} {s₀ : Shelf} {s s' : Scene} {p : Handle → Bool}
  {w w' : Surroundings}

/-- The check of two bounds finds the same. -/
theorem check_bounds_congr (h : s.Follows reporting k s₀ s') (hw : w.AgreeBut p w')
    {start stop : Value} (hvalues : ∀ v ∈ [start, stop], ¬ v.Refers p s₀) :
    Bound.check s'.query.text (start.bound w') (stop.bound w')
      = Bound.check s.query.text (start.bound w) (stop.bound w) := by
  have hstart := Value.mentions_of_not_refers (hvalues start (by simp))
  have hstop := Value.mentions_of_not_refers (hvalues stop (by simp))
  rw [h.query.text, Value.bound_congr hw hstart, Value.bound_congr hw hstop]

/-- **One call** on two queries of which one follows the other.  A boost needs the same report in
    both; a field can be closed in both if the second query has one open, or the first has none
    more. -/
theorem alike_run (h : s.Follows reporting k s₀ s') (hw : w.AgreeBut p w') {c : Call}
    (hc : c.Avoids p s₀) (hboost : c.isBoost = true → reporting = true)
    (hend : c = .endField → s'.query.openFields = [] → k = 0) :
    Scene.Alike reporting k s₀ (c.run w s) (c.run w' s') := by
  cases c with
  | argument v m =>
    rw [run_argument, run_argument, h.query.modifier]
    exact h.on _ fun m => h.put hw (hc v List.mem_cons_self) m
  | fuzzyArgument v m f =>
    rw [run_fuzzyArgument, run_fuzzyArgument, h.query.modifier]
    exact h.on _ fun m => h.put hw (hc v List.mem_cons_self) m
  | field name v m factor allMembers =>
    have hv := hc v List.mem_cons_self
    rw [run_field, run_field, h.query.modifier, h.shelf]
    cases Boost.checkGiven factor with
    | error e => exact ⟨rfl, h⟩
    | ok =>
      have hsettled := h.settle hv
      exact hsettled.on _ fun m =>
        hsettled.putField hw (Value.not_refers_settled h.within hv).1 name m factor
  | fuzzyField name v m f =>
    have hv := hc v List.mem_cons_self
    rw [run_fuzzyField, run_fuzzyField, h.query.modifier, h.shelf]
    cases m.resolveFuzzy s.query.modifier v.isGroup f with
    | error e => exact ⟨rfl, h⟩
    | ok m =>
      have hwritten := (h.settle hv).putField hw (Value.not_refers_settled h.within hv).1 name m none
      exact ⟨rfl, hwritten⟩
  | range start stop m =>
    rw [run_range, run_range, check_bounds_congr h hw hc, h.query.modifier]
    rcases Bound.check s.query.text (start.bound w) (stop.bound w) with e | _ | ⟨a, b⟩
    · exact ⟨rfl, h⟩
    · exact h.returns h.query.skipped
    · exact h.on _ fun m => h.change (h.query.writeRange none a b m)
  | rangeField name start stop m =>
    rw [run_rangeField, run_rangeField, check_bounds_congr h hw hc, h.query.modifier]
    rcases Bound.check s.query.text (start.bound w) (stop.bound w) with e | _ | ⟨a, b⟩
    · exact ⟨rfl, h⟩
    · exact h.returns h.query.skipped
    · by_cases hname : Text.isMissing name = true
      · simp only [hname, if_true]
        exact h.returns h.query.skipped
      · simp only [hname]
        exact h.on _ fun m => h.change (h.query.writeRange name a b m)
  | subquery query m =>
    have hv : ¬ (query.elim Value.absent Value.query).Refers p s₀ := by
      cases query with
      | none => exact Value.not_refers_scalar
      | some g => exact hc (.query g) List.mem_cons_self
    rw [run_subquery, run_subquery, h.query.modifier]
    exact h.on _ fun m => h.put hw hv m
  | startField name m =>
    rw [run_startField, run_startField, h.query.modifier]
    exact h.on _ fun m => h.change (h.query.startField name m)
  | endField =>
    rw [run_endField, run_endField]
    have hcount := h.query.openFields
    cases hfields' : s'.query.openFields with
    | nil =>
      -- The second query has no field open, so the first has none either.
      obtain rfl : k = 0 := hend rfl hfields'
      have hnone : s.query.openFields = [] := by
        rw [hfields'] at hcount
        exact List.length_eq_zero_iff.mp hcount
      rw [hnone]
      exact ⟨rfl, h⟩
    | cons field' fields' =>
      rw [hfields', List.length_cons] at hcount
      cases hfields : s.query.openFields with
      | nil => rw [hfields, List.length_nil] at hcount; omega
      | cons field fields =>
        rw [hfields, List.length_cons] at hcount
        have hless : fields.length = fields'.length + k := by omega
        exact h.returns (h.query.closeField hless)
  | boost f =>
    rw [run_boost, run_boost]
    obtain rfl : reporting = true := hboost rfl
    cases Boost.check f with
    | error e => exact ⟨rfl, h⟩
    | ok => exact h.returns (h.query.writeBoost f)
  | unescaped t mandatory =>
    rw [run_unescaped, run_unescaped]
    exact h.returns (h.query.writeUnescaped none t mandatory)
  | unescapedField name t mandatory =>
    rw [run_unescapedField, run_unescapedField]
    by_cases hname : Text.isMissing name = true
    · simp only [hname, if_true]
      exact h.returns h.query.skipped
    · simp only [hname]
      exact h.returns (h.query.writeUnescaped name t mandatory)
  | setModifier m =>
    rw [run_setModifier, run_setModifier]
    cases m with
    | none => exact ⟨rfl, h⟩
    | some m => exact h.returns (h.query.setModifier m)
  | setWildcarded on =>
    rw [run_setWildcarded, run_setWildcarded, h.query.modifier]
    exact h.on _ fun m => h.change (h.query.setModifier m)

end Call
end SearchQuery

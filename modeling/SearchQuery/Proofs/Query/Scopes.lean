/-
  Fields that are closed as they were opened.

  A query keeps the names of its open fields but not where they were opened.  When a field is closed,
  an opening parenthesis at the end of the text is taken as the sign that nothing was written into
  it.  Here the places are kept beside the run, and the sign is shown to be right: whatever else is
  written in between, raw texts included, ends in a blank.  Only a call that breaks off in a group
  leaves something else behind, and one that breaks off in a field of its own leaves that open.

  1. **Padding (`Text.Padded`)** — a text that ends in a blank, unless it is empty.  All that is
     written is padded, but for the openings of fields and what a call leaves that breaks off.
  2. **Steps (`Query.turn`)** — a step opens a field, closes the innermost one, breaks off, or fills
     the innermost field with a padded text.  One case for each call.
  3. **Runs (`Query.Tracks.attempts`)** — `Query.openings` notes the text behind each opening.  These
     texts go on being beginnings of the text, and only the innermost can be all of it.
  4. **Closing (`Query.scopes_close_as_opened`)** — what is open, when a closing is refused, and when
     it needs a placeholder.
-/
import SearchQuery.Proofs.Query.Attempt

namespace SearchQuery

/-! ## Padding -/

namespace Text

/-- The text ends in a blank, unless there is none. -/
def Padded (t : Text) : Prop := t ≠ [] → t.getLast? = some ' '

variable {t u : Text}

theorem padded_nil : Padded [] := fun h => absurd rfl h

theorem padded_behind (t : Text) (h : u.getLast? = some ' ') : (t ++ u).Padded := by
  intro _
  rw [List.getLast?_append, h]
  rfl

theorem Padded.append (ht : t.Padded) (hu : u.Padded) : (t ++ u).Padded := by
  by_cases hne : u = []
  · rw [hne, List.append_nil]; exact ht
  · exact padded_behind t (hu hne)

end Text

theorem padded_renderBoost (f : Number) : (renderBoost f).Padded := by
  unfold renderBoost
  split
  · exact Text.padded_nil
  · exact Text.padded_behind _ rfl

theorem padded_renderClosing (own : Text) : (renderClosing own).Padded := Text.padded_behind _ rfl

theorem padded_renderField (m : Modifier) (name inner : Text) (factor : Option Number) :
    (renderField m name inner factor).Padded := by
  refine (Text.padded_behind _ rfl).append ?_
  cases factor with
  | none => exact Text.padded_nil
  | some f => exact padded_renderBoost f

theorem padded_renderRange (own : Text) (field : Option Text) (start stop : Bound) (m : Modifier) :
    (renderRange own field start stop m).Padded := Text.padded_behind _ rfl

/-- A raw text may end in anything, but a blank is written behind it. -/
theorem padded_renderUnescaped (field text : Option Text) (mandatory : Bool) :
    (renderUnescaped field text mandatory).Padded := by
  unfold renderUnescaped
  split
  · exact Text.padded_nil
  · exact Text.padded_nil
  · cases field <;> exact Text.padded_behind _ rfl

namespace Query

/-! ## Steps -/

/-- `q'` has the open fields of `q`, and a padded text behind its own. -/
structure Fills (q q' : Query) : Prop where
  openFields : q'.openFields = q.openFields
  grown : ∃ t, q'.text = q.text ++ t ∧ t.Padded

variable {q q' : Query}

theorem Fills.same (hfields : q'.openFields = q.openFields) (htext : q'.text = q.text) :
    q.Fills q' :=
  ⟨hfields, [], by rw [htext, List.append_nil], Text.padded_nil⟩

theorem Fills.refl (q : Query) : q.Fills q := .same rfl rfl

theorem Grew.fills {t : Text} (h : q.Grew t q') (hfields : q'.openFields = q.openFields)
    (ht : t.Padded) : q.Fills q' :=
  ⟨hfields, t, h.text, ht⟩

/-- A call that first finds its modifier. -/
theorem Fills.on {s : Scene} {r : Except QueryError Modifier} {k : Modifier → Scene}
    (hs : s.query = q) (h : ∀ m, q.Fills (k m).query) : q.Fills (s.on r k).2.query := by
  cases r with
  | error e => rw [← hs]; exact .refl s.query
  | ok m => exact h m

theorem fills_put {s : Scene} (hs : s.query.buffer.Sound) (w : Surroundings) (v : Value)
    (m : Modifier) : s.query.Fills (s.put w v m).query :=
  (Call.wrote_put hs w v m).fills (sameFrame_write _ s.query m).openFields getLast?_render

theorem fills_putField {s : Scene} (hs : s.query.buffer.Sound) (w : Surroundings)
    (name : Option Text) (v : Value) (m : Modifier) (factor : Option Number) :
    s.query.Fills (s.putField w name v m factor).query := by
  rcases s.query_putField_cases w name v m factor with hskipped | ⟨n, t, hwritten⟩
  · rw [hskipped]
    exact .same rfl rfl
  · rw [hwritten]
    exact (wrote_writeField hs n m t factor).fills
      (sameFrame_writeField s.query n m t factor).openFields (padded_renderField m n _ factor)

theorem fills_writeRange (hq : q.buffer.Sound) (field : Option Text) (start stop : Bound)
    (m : Modifier) : q.Fills (q.writeRange field start stop m) :=
  (wrote_writeRange hq field start stop m).fills rfl (padded_renderRange q.text field start stop m)

theorem fills_writeUnescaped (hq : q.buffer.Sound) (field text : Option Text) (mandatory : Bool) :
    q.Fills (q.writeUnescaped field text mandatory) :=
  (wrote_writeUnescaped hq field text mandatory).fills
    (sameFrame_writeUnescaped q field text mandatory).openFields
    (padded_renderUnescaped field text mandatory)

theorem fills_writeBoost (hq : q.buffer.Sound) (f : Number) : q.Fills (q.writeBoost f) := by
  refine (grew_writeBoost hq f).fills (sameFrame_writeBoost q f).openFields ?_
  cases q.succeeded with
  | false => exact Text.padded_nil
  | true => exact padded_renderBoost f

end Query

namespace Call

/-- Whether a call leaves the open fields alone, whatever it is given. -/
def fills : Call → Bool
  | .startField _ _ | .endField => false
  | _ => true

/-- **Every call** that neither opens nor closes a field fills the query, also if it is refused. -/
theorem fills_run (w : Surroundings) (c : Call) (s : Scene) (hs : s.query.buffer.Sound)
    (hc : c.fills = true) : s.query.Fills (c.run w s).2.query := by
  cases c with
  | argument v m => rw [run_argument]; exact .on rfl fun m => Query.fills_put hs w v m
  | fuzzyArgument v m f => rw [run_fuzzyArgument]; exact .on rfl fun m => Query.fills_put hs w v m
  | field name v m factor allMembers =>
    rw [run_field]
    cases Boost.checkGiven factor with
    | error e => exact .refl s.query
    | ok =>
      exact .on rfl fun m =>
        Query.fills_putField (s := ⟨s.query, (v.settled s.shelf).2⟩) hs w name _ m factor
  | fuzzyField name v m f =>
    rw [run_fuzzyField]
    cases m.resolveFuzzy s.query.modifier v.isGroup f with
    | error e => exact .refl s.query
    | ok m => exact Query.fills_putField (s := ⟨s.query, (v.settled s.shelf).2⟩) hs w name _ m none
  | range start stop m =>
    rw [run_range]
    rcases Bound.check s.query.text (start.bound w) (stop.bound w) with e | _ | ⟨a, b⟩
    · exact .refl s.query
    · exact .same rfl rfl
    · exact .on rfl fun m => Query.fills_writeRange hs none a b m
  | rangeField name start stop m =>
    rw [run_rangeField]
    rcases Bound.check s.query.text (start.bound w) (stop.bound w) with e | _ | ⟨a, b⟩
    · exact .refl s.query
    · exact .same rfl rfl
    · by_cases hname : Text.isMissing name = true
      · simp only [hname, if_true]
        exact .same rfl rfl
      · simp only [hname]
        exact .on rfl fun m => Query.fills_writeRange hs name a b m
  | subquery query m => rw [run_subquery]; exact .on rfl fun m => Query.fills_put hs w _ m
  | startField name m => cases hc
  | endField => cases hc
  | boost f =>
    rw [run_boost]
    cases Boost.check f with
    | error e => exact .refl s.query
    | ok => exact Query.fills_writeBoost hs f
  | unescaped t mandatory =>
    rw [run_unescaped]
    exact Query.fills_writeUnescaped hs none t mandatory
  | unescapedField name t mandatory =>
    rw [run_unescapedField]
    by_cases hname : Text.isMissing name = true
    · simp only [hname, if_true]
      exact .same rfl rfl
    · simp only [hname]
      exact Query.fills_writeUnescaped hs name t mandatory
  | setModifier m =>
    rw [run_setModifier]
    cases m <;> exact .same rfl rfl
  | setWildcarded on => rw [run_setWildcarded]; exact .on rfl fun m => .same rfl rfl

end Call

namespace Query

variable {q : Query}

/-- Whether the call of a step returns. -/
def returns (q : Query) (step : Step) : Bool :=
  (step.call.attempt step.surroundings ⟨q, step.shelf⟩).1.isOk

/-- Whether a step opens a field: its call gives the field a name, and returns. -/
def opens (q : Query) (step : Step) : Bool :=
  match step.call with
  | .startField name _ => !Text.isMissing name && q.returns step
  | _ => false

/-- Whether a step closes a field: its call asks for it, and returns. -/
def closes (q : Query) (step : Step) : Bool :=
  match step.call with
  | .endField => q.returns step
  | _ => false

/-- What a step does to the fields that are open. -/
inductive Turn (q : Query) (step : Step) : Prop
  /-- it opens another one -/
  | opening (field lead : Text) (hopens : q.opens step = true) (hcloses : q.closes step = false)
      (hbreaks : q.breaks? step = none)
      (hfields : (q.afterAttempt step).openFields = field :: q.openFields)
      (htext : (q.afterAttempt step).text = q.text ++ lead ++ [':', '('])
  /-- it closes the innermost one -/
  | closing (field : Text) (hopens : q.opens step = false) (hcloses : q.closes step = true)
      (hbreaks : q.breaks? step = none)
      (hfields : q.openFields = field :: (q.afterAttempt step).openFields)
      (htext : (q.afterAttempt step).text = q.text ++ renderClosing q.text)
  /-- it breaks off -/
  | breaking (b : Break) (hopens : q.opens step = false) (hcloses : q.closes step = false)
      (hbreaks : q.breaks? step = some b)
  /-- it leaves them as they are -/
  | filling (hopens : q.opens step = false) (hcloses : q.closes step = false)
      (hbreaks : q.breaks? step = none) (hfills : q.Fills (q.afterAttempt step))

/-- A field is opened if its modifier is found and its name is not missing. -/
theorem turn_startField (hq : q.buffer.Sound) (w : Surroundings) (shelf : Shelf)
    (name : Option Text) (m : ModifierArg) : q.Turn ⟨w, shelf, .startField name m⟩ := by
  have hrun := run_startField w ⟨q, shelf⟩ m name
  cases hm : m.resolve q.modifier false with
  | error e =>
    rw [hm] at hrun
    have hattempt := Call.attempt_of_run rfl hrun
    have hreturns : q.returns ⟨w, shelf, .startField name m⟩ = false := by
      unfold returns; rw [hattempt]; rfl
    have hafter : q.afterAttempt ⟨w, shelf, .startField name m⟩ = q := by
      unfold afterAttempt; rw [hattempt]
    exact .filling (by simp [opens, hreturns]) rfl rfl (by rw [hafter]; exact .refl q)
  | ok m' =>
    rw [hm] at hrun
    have hattempt := Call.attempt_of_run rfl hrun
    have hreturns : q.returns ⟨w, shelf, .startField name m⟩ = true := by
      unfold returns; rw [hattempt]; rfl
    have hafter : q.afterAttempt ⟨w, shelf, .startField name m⟩ = q.startField name m' := by
      unfold afterAttempt; rw [hattempt]; rfl
    have hwrote := wrote_startField hq name m'
    rcases name with _ | name
    · exact .filling rfl rfl rfl (by rw [hafter]; exact .same rfl rfl)
    · by_cases hname : Text.isBlank name = true
      · refine .filling (by simp [opens, Text.isMissing, hname]) rfl rfl ?_
        rw [hafter, startField, if_pos hname]
        exact .same rfl rfl
      · refine .opening name (m'.mark ++ name) (by simp [opens, Text.isMissing, hname, hreturns])
          rfl rfl ?_ ?_
        · rw [hafter, startField, if_neg hname]; rfl
        · rw [hafter, hwrote.text]
          simp [Text.isMissing, hname, renderOpening]

/-- A field is closed if one is open. -/
theorem turn_endField (hq : q.buffer.Sound) (w : Surroundings) (shelf : Shelf) :
    q.Turn ⟨w, shelf, .endField⟩ := by
  have hrun := run_endField w ⟨q, shelf⟩
  cases hfields : q.openFields with
  | nil =>
    simp only [hfields] at hrun
    have hattempt := Call.attempt_of_run rfl hrun
    have hafter : q.afterAttempt ⟨w, shelf, .endField⟩ = q := by unfold afterAttempt; rw [hattempt]
    have hcloses : q.closes ⟨w, shelf, .endField⟩ = false := by
      simp only [closes, returns, hattempt]; rfl
    exact .filling rfl hcloses rfl (by rw [hafter]; exact .refl q)
  | cons field fields =>
    simp only [hfields] at hrun
    have hattempt := Call.attempt_of_run rfl hrun
    have hafter : q.afterAttempt ⟨w, shelf, .endField⟩ = q.closeField fields := by
      unfold afterAttempt; rw [hattempt]; rfl
    have hcloses : q.closes ⟨w, shelf, .endField⟩ = true := by
      simp only [closes, returns, hattempt]; rfl
    exact .closing field rfl hcloses rfl (by rw [hafter, openFields_closeField, hfields])
      (by rw [hafter]; exact (wrote_closeField hq fields).text)

/-- **A step** opens a field, closes the innermost one, breaks off, or fills the innermost one. -/
theorem turn (hq : q.buffer.Sound) (step : Step) : q.Turn step := by
  obtain ⟨w, shelf, c⟩ := step
  by_cases hc : c.fills = true
  · have hopens : q.opens ⟨w, shelf, c⟩ = false := by cases c <;> first | rfl | cases hc
    have hcloses : q.closes ⟨w, shelf, c⟩ = false := by cases c <;> first | rfl | cases hc
    cases hb : q.breaks? ⟨w, shelf, c⟩ with
    | some b => exact .breaking b hopens hcloses hb
    | none =>
      have hfills := Call.fills_run w c ⟨q, shelf⟩ hq hc
      exact .filling hopens hcloses hb (by rw [afterAttempt_of_none hb]; exact hfills)
  · cases c with
    | startField name m => exact turn_startField hq w shelf name m
    | endField => exact turn_endField hq w shelf
    | _ => exact absurd rfl hc

/-! ## Runs -/

/-- A step opens a field, leaves one open that its call opened for itself, closes one, or leaves
    their number. -/
theorem length_openFields_after (hq : q.buffer.Sound) (step : Step) :
    (q.afterAttempt step).openFields.length + (if q.closes step then 1 else 0)
      = q.openFields.length + (if q.opens step then 1 else 0)
        + (if q.leavesField step then 1 else 0) := by
  rcases turn hq step with
    ⟨field, lead, hopens, hcloses, hbreaks, hfields, -⟩ |
    ⟨field, hopens, hcloses, hbreaks, hfields, -⟩ | ⟨b, hopens, hcloses, hbreaks⟩ |
    ⟨hopens, hcloses, hbreaks, hfills⟩
  · simp [hopens, hcloses, leavesField, hbreaks, hfields]
  · simp [hopens, hcloses, leavesField, hbreaks, hfields]
  · rw [afterAttempt_of_break hbreaks, b.openFields_scene]
    cases hfield : b.field <;> simp [hopens, hcloses, leavesField, hbreaks, hfield]
  · simp [hopens, hcloses, leavesField, hbreaks, hfills.openFields]

/-- **The count of open fields**: a field that was opened is open until it is closed, also if a call
    opened it for itself and broke off. -/
theorem length_openFields_attempts (hq : q.buffer.Sound) (steps : List Step) :
    (q.attempts steps).openFields.length + q.times closes steps
      = q.openFields.length + q.times opens steps + q.times leavesField steps := by
  induction steps generalizing q with
  | nil => rfl
  | cons step steps ih =>
    have hfirst := length_openFields_after hq step
    have hrest := ih (sound_afterAttempt hq step)
    show ((q.afterAttempt step).attempts steps).openFields.length
        + ((if q.closes step then 1 else 0) + (q.afterAttempt step).times closes steps)
      = q.openFields.length
        + ((if q.opens step then 1 else 0) + (q.afterAttempt step).times opens steps)
        + ((if q.leavesField step then 1 else 0) + (q.afterAttempt step).times leavesField steps)
    omega

/-- The texts that reach up to the openings of the open fields, innermost first, after a step: a
    field is noted when it is opened, with the text that ends in its opening, and struck off when
    it is closed. -/
def noted (q : Query) (opened : List Text) (step : Step) : List Text :=
  if q.opens step || q.leavesField step then (q.afterAttempt step).text :: opened
  else if q.closes step then opened.tail
  else opened

/-- The texts that reach up to the openings of the open fields after a run of attempts. -/
def openings : Query → List Text → List Step → List Text
  | _, opened, [] => opened
  | q, opened, step :: steps => openings (q.afterAttempt step) (q.noted opened step) steps

/-- The texts `opened` reach up to the openings of the open fields of `q`, innermost first. -/
structure Tracks (q : Query) (opened : List Text) : Prop where
  sound : q.buffer.Sound
  length : opened.length = q.openFields.length
  within : ∀ own ∈ opened, own <+: q.text ∧ [':', '('] <:+ own
  /-- a text that ends in an opening has nothing behind the innermost one -/
  innermost : ∀ own ∈ opened.head?, q.text.getLast? = some '(' → q.text = own

theorem tracks_new (m : Option Modifier) (t : Text) : (new m t).Tracks [] where
  sound := Buffer.sound_ofText t
  length := rfl
  within own h := by cases h
  innermost own h := by cases h

/-- Behind a padded text the innermost opening is bare only if it was bare before. -/
theorem Tracks.fill {opened : List Text} (h : q.Tracks opened) {q' : Query} {t : Text}
    (hq' : q'.buffer.Sound) (htext : q'.text = q.text ++ t) (ht : t.Padded) {opened' : List Text}
    (hlength : opened'.length = q'.openFields.length) (hwithin : opened' ⊆ opened)
    (hhead : t = [] → opened' = opened) : q'.Tracks opened' where
  sound := hq'
  length := hlength
  within own hown := by
    obtain ⟨hbegins, hends⟩ := h.within own (hwithin hown)
    exact ⟨htext ▸ hbegins.trans (List.prefix_append q.text t), hends⟩
  innermost own hown hlast := by
    by_cases hne : t = []
    · rw [htext, hne, List.append_nil] at hlast ⊢
      exact h.innermost own (hhead hne ▸ hown) hlast
    · rw [htext, List.getLast?_append, ht hne] at hlast
      cases hlast

/-- Behind a new opening, that is the innermost one. -/
theorem Tracks.open {opened : List Text} (h : q.Tracks opened) {q' : Query} {field lead : Text}
    (hq' : q'.buffer.Sound) (hfields : q'.openFields = field :: q.openFields)
    (htext : q'.text = q.text ++ lead ++ [':', '(']) : q'.Tracks (q'.text :: opened) where
  sound := hq'
  length := by rw [List.length_cons, hfields, List.length_cons, h.length]
  within own hown := by
    rcases List.mem_cons.mp hown with rfl | hown
    · exact ⟨List.prefix_refl _, htext ▸ List.suffix_append _ _⟩
    · obtain ⟨hbegins, hends⟩ := h.within own hown
      have hgrown : q.text <+: q'.text := ⟨lead ++ [':', '('], by rw [htext, List.append_assoc]⟩
      exact ⟨hbegins.trans hgrown, hends⟩
  innermost own hown _ := Option.some.inj hown

/-- A call that breaks off outside of groups leaves nothing, or the bare opening of its field. -/
theorem Tracks.break {opened : List Text} (h : q.Tracks opened) {b : Break}
    (hrest : b.rest.depth = 0) :
    (b.scene q).query.Tracks (if b.field.isSome then (b.scene q).query.text :: opened else opened) := by
  obtain ⟨t, hgrew⟩ := b.exists_grew_scene h.sound
  have hnothing : b.rest = .nothing := by
    cases hr : b.rest with
    | nothing => rfl
    | opened before rest => rw [hr] at hrest; cases hrest
  cases hfield : b.field with
  | none =>
    have hscene : (b.scene q).query = q := by unfold Break.scene; rw [hfield, hnothing]; rfl
    rw [hscene]
    exact h
  | some name =>
    have hscene : (b.scene q).query = q.openField name b.modifier := by
      unfold Break.scene; rw [hfield, hnothing]; rfl
    have hopened := wrote_openField h.sound name b.modifier
    have hfields : (b.scene q).query.openFields = name :: q.openFields := by rw [hscene]; rfl
    have htext : (b.scene q).query.text = q.text ++ (b.modifier.mark ++ name) ++ [':', '('] := by
      rw [hscene, hopened.text, renderOpening, ← List.append_assoc]
    exact h.open hgrew.sound hfields htext

/-- **One attempt** that does not break off in a group keeps the openings. -/
theorem Tracks.after {opened : List Text} (h : q.Tracks opened) {step : Step}
    (hclosed : q.unclosed step = 0) : (q.afterAttempt step).Tracks (q.noted opened step) := by
  have hsound := sound_afterAttempt h.sound step
  unfold noted
  rcases turn h.sound step with
    ⟨field, lead, hopens, hcloses, hbreaks, hfields, htext⟩ |
    ⟨field, hopens, hcloses, hbreaks, hfields, htext⟩ | ⟨b, hopens, hcloses, hbreaks⟩ |
    ⟨hopens, hcloses, hbreaks, hfields, t, htext, ht⟩
  · rw [hopens, Bool.true_or, if_pos rfl]
    exact h.open hsound hfields htext
  · have hleaves : q.leavesField step = false := by rw [leavesField, hbreaks]; rfl
    rw [hopens, hleaves, Bool.or_false, if_neg Bool.false_ne_true, if_pos hcloses]
    refine h.fill hsound htext (padded_renderClosing q.text) ?_ (fun _ => List.mem_of_mem_tail) ?_
    · rw [List.length_tail, h.length, hfields, List.length_cons, Nat.add_sub_cancel]
    · intro hnil
      simp [renderClosing] at hnil
  · have hleaves : q.leavesField step = b.field.isSome := by rw [leavesField, hbreaks]; rfl
    have hrest : b.rest.depth = 0 := by rw [unclosed, hbreaks] at hclosed; exact hclosed
    rw [hopens, hcloses, hleaves, Bool.false_or, afterAttempt_of_break hbreaks]
    exact h.break hrest
  · have hleaves : q.leavesField step = false := by rw [leavesField, hbreaks]; rfl
    rw [hopens, hcloses, hleaves, Bool.false_or, if_neg Bool.false_ne_true,
      if_neg Bool.false_ne_true]
    exact h.fill hsound htext ht (by rw [hfields, h.length]) (List.Subset.refl _) fun _ => rfl

/-- **The openings stay where they are**, whatever is written behind them. -/
theorem Tracks.attempts {opened : List Text} (h : q.Tracks opened) {steps : List Step}
    (hclosed : q.total unclosed steps = 0) : (q.attempts steps).Tracks (q.openings opened steps) := by
  induction steps generalizing q opened with
  | nil => exact h
  | cons step steps ih =>
    obtain ⟨hfirst, hrest⟩ := Nat.add_eq_zero_iff.mp hclosed
    exact ih (h.after hfirst) hrest

/-! ## Closing -/

/-- **The sign is right**: an opening parenthesis ends the text exactly if nothing stands behind the
    innermost opening. -/
theorem Tracks.bare_iff {own inside : Text} {outer : List Text} (h : q.Tracks (own :: outer))
    (htext : q.text = own ++ inside) : q.text.getLast? = some '(' ↔ inside = [] := by
  constructor
  · intro hlast
    have hall : own ++ inside = own := htext.symm.trans (h.innermost own rfl hlast)
    exact List.append_right_eq_self.mp hall
  · rintro rfl
    obtain ⟨-, lead, hlead⟩ := h.within own List.mem_cons_self
    rw [htext, List.append_nil, ← hlead, List.getLast?_append]
    rfl

/-- Closing a field is refused exactly if none is open. -/
theorem endField_refused_iff (q : Query) (w : Surroundings) (shelf : Shelf) :
    (Call.endField.attempt w ⟨q, shelf⟩).1 = .error .noOpenField ↔ q.openFields.length = 0 := by
  rw [Call.attempt_of_none rfl, run_endField]
  cases q.openFields with
  | nil => exact ⟨fun _ => rfl, fun _ => rfl⟩
  | cons field fields =>
    constructor
    · intro h; cases h
    · intro h; cases h

/-- The innermost field is closed with an empty phrase if nothing stands behind its opening. -/
theorem Tracks.close {own : Text} {outer : List Text} (h : q.Tracks (own :: outer))
    (w : Surroundings) (shelf : Shelf) :
    let r := Call.endField.attempt w ⟨q, shelf⟩
    r.1 = .ok () ∧ ∃ inside, q.text = own ++ inside ∧ [':', '('] <:+ own ∧
      r.2.query.text = q.text ++ (if inside = [] then ['"', '"'] else []) ++ [')', ' '] := by
  intro r
  have hrun := run_endField w ⟨q, shelf⟩
  cases hfields : q.openFields with
  | nil =>
    have hlength := h.length
    rw [hfields] at hlength
    cases hlength
  | cons field fields =>
    simp only [hfields] at hrun
    have hr : r = (.ok (), _) := Call.attempt_of_run rfl hrun
    obtain ⟨⟨inside, hinside⟩, hends⟩ := h.within own List.mem_cons_self
    have htext : r.2.query.text = q.text ++ renderClosing q.text := by
      rw [hr]
      exact (wrote_closeField h.sound fields).text
    refine ⟨by rw [hr], inside, hinside.symm, hends, ?_⟩
    rw [htext, renderClosing, List.append_assoc]
    simp only [h.bare_iff hinside.symm]

/-- **Fields are closed as they were opened.**  After any run of attempts, those fields are open that
    were opened with a name and not closed since, and those that a call opened for itself and broke
    off in; closing a field is refused exactly if none is open.  If no call broke off in a group, the
    innermost opening begins the text otherwise, and the field is closed with an empty phrase in
    front exactly if nothing stands behind that opening.  Where all values may be written, no call
    breaks off in a field or a group. -/
theorem scopes_close_as_opened (m : Option Modifier) (t : Text) (steps : List Step)
    (w : Surroundings) (shelf : Shelf) :
    let q := (new m t).attempts steps
    let opened := (new m t).openings [] steps
    let r := Call.endField.attempt w ⟨q, shelf⟩
    q.openFields.length + (new m t).times closes steps
        = (new m t).times opens steps + (new m t).times leavesField steps ∧
      (r.1 = .error .noOpenField ↔ q.openFields.length = 0) ∧
      ((new m t).total unclosed steps = 0 →
        opened.length = q.openFields.length ∧
        ∀ own outer, opened = own :: outer → r.1 = .ok () ∧
          ∃ inside, q.text = own ++ inside ∧ [':', '('] <:+ own ∧
            r.2.query.text =
              q.text ++ (if inside = [] then ['"', '"'] else []) ++ [')', ' ']) ∧
      ((∀ step ∈ steps, step.IsWritable) →
        (new m t).times leavesField steps = 0 ∧ (new m t).total unclosed steps = 0) := by
  intro q opened r
  have hcount := length_openFields_attempts (tracks_new m t).sound steps
  rw [show (new m t).openFields.length = 0 from rfl, Nat.zero_add] at hcount
  refine ⟨hcount, endField_refused_iff q w shelf, fun hclosed => ?_,
    fun hwritable => ⟨times_leavesField_eq_zero hwritable, total_unclosed_eq_zero hwritable⟩⟩
  have htracks : q.Tracks opened := (tracks_new m t).attempts hclosed
  refine ⟨htracks.length, fun own outer hopened => ?_⟩
  rw [hopened] at htracks
  exact htracks.close w shelf

/-- Two fields, one in the other: the inner one is closed with a phrase, and the outer one then holds
    something. -/
theorem scopes_close_as_opened_nested :
    let w : Surroundings := ⟨⟨fun _ => [], fun _ => {}⟩, (· == .query 0)⟩
    let steps : List Step :=
      [⟨w, [], .startField (some ['f']) .absent⟩, ⟨w, [], .startField (some ['g']) .absent⟩]
    let q := (new none ['(']).attempts steps
    let q' := (new none ['(']).attempts (steps ++ [⟨w, [], .endField⟩])
    (Call.endField.attempt w ⟨q, []⟩).2.query.text = "(f:(g:(\"\") ".toList ∧
      (Call.endField.attempt w ⟨q', []⟩).2.query.text = "(f:(g:(\"\") ) ".toList := by
  intro w steps q q'
  have hopened : (new none ['(']).openings [] steps = ["(f:(g:(".toList, "(f:(".toList] := by
    decide +kernel
  have hopened' : (new none ['(']).openings [] (steps ++ [⟨w, [], .endField⟩])
      = ["(f:(".toList] := by decide +kernel
  have hclosed : (new none ['(']).total unclosed steps = 0 := by decide +kernel
  have hclosed' : (new none ['(']).total unclosed (steps ++ [⟨w, [], .endField⟩]) = 0 := by
    decide +kernel
  obtain ⟨-, -, hinner, -⟩ := scopes_close_as_opened none ['('] steps w []
  obtain ⟨-, -, houter, -⟩ :=
    scopes_close_as_opened none ['('] (steps ++ [⟨w, [], .endField⟩]) w []
  obtain ⟨-, inside, hinside, -, htext⟩ := (hinner hclosed).2 _ _ hopened
  obtain ⟨-, inside', hinside', -, htext'⟩ := (houter hclosed').2 _ _ hopened'
  have hq : q.text = "(f:(g:(".toList := by decide +kernel
  have hq' : q'.text = "(f:(g:(\"\") ".toList := by decide +kernel
  obtain rfl : inside = [] :=
    List.append_right_eq_self.mp (hinside.symm.trans hq)
  obtain rfl : inside' = "g:(\"\") ".toList :=
    List.append_cancel_left (hinside'.symm.trans hq')
  exact ⟨by rw [htext, hq]; rfl, by rw [htext', hq']; rfl⟩

/-- A call that breaks off in a field of its own leaves that open, though no call opened a field by
    hand, and it can be closed afterwards. -/
theorem field_left_open :
    let w : Surroundings := ⟨⟨fun _ => [], fun _ => {}⟩, (· == .query 0)⟩
    let tooLong : Value := .scalar (.number (.int (Nat.pow 10 4300)))
    let steps : List Step :=
      [⟨w, [], .field (some ['f']) (.group .list [.text ['a'], tooLong]) .absent none none⟩]
    let q := (new none []).attempts steps
    (new none []).times opens steps = 0 ∧ (new none []).times closes steps = 0 ∧
      q.text = "f:(".toList ∧ q.openFields.length = 1 ∧
      (Call.endField.attempt w ⟨q, []⟩).2.query.text = "f:(\"\") ".toList := by
  decide +kernel

end Query
end SearchQuery

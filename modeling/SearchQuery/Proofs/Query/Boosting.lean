/-
  What a boost is attached to.

  A boost is meant for the clause before it.  It is written whenever the last call reported that it
  wrote something, and that is not the same: a field that was only just opened was written as well,
  and a boost leaves the report of the call before it as it is.  Here it is said exactly what stands
  in front of a boost that was written.

  1. **How a text ends (`Text.Ends`)** — with a closed clause, or in any case not, whatever it is
     written behind.
  2. **What is written** — renderings of values, fields and ranges end with a closed clause;
     openings of fields and boosts do not.
  3. **Calls (`Call.ends_run`)** — `Call.closes` tells the calls apart that end what they write with
     a closed clause; one case for each call.
  4. **Runs (`Query.closed_before_boost_iff`)** — the text in front of a boost ends as the last call
     ended it that wrote something.  The crux is the induction over the run: until some call writes,
     the text and a report of no success stay as they are.
-/
import SearchQuery.Proofs.Number.Alphabet
import SearchQuery.Proofs.Query.Run

namespace SearchQuery

/-! ## How a text ends -/

namespace Text

/-- The text ends with a clause, a group, a field or a range that was closed. -/
def Closed (t : Text) : Prop := [')', ' '] <:+ t ∨ [']', ' '] <:+ t

instance (t : Text) : Decidable t.Closed := inferInstanceAs (Decidable (_ ∨ _))

/-- Written behind any text, `t` leaves it closed, or leaves it not closed. -/
def Ends (closed : Bool) (t : Text) : Prop := ∀ own : Text, (own ++ t).Closed ↔ closed = true

theorem closed_append_pair (t : Text) (c d : Char) :
    (t ++ [c, d]).Closed ↔ (c = ')' ∨ c = ']') ∧ d = ' ' := by
  have hpair : ∀ a b : Char, [a, b] <:+ t ++ [c, d] ↔ a = c ∧ b = d := by
    intro a b
    constructor
    · rintro ⟨u, hu⟩
      simpa using List.append_inj_right' hu rfl
    · rintro ⟨rfl, rfl⟩
      exact List.suffix_append t [a, b]
  unfold Closed
  rw [hpair, hpair]
  constructor
  · rintro (⟨rfl, rfl⟩ | ⟨rfl, rfl⟩)
    · exact ⟨.inl rfl, rfl⟩
    · exact ⟨.inr rfl, rfl⟩
  · rintro ⟨rfl | rfl, rfl⟩
    · exact .inl ⟨rfl, rfl⟩
    · exact .inr ⟨rfl, rfl⟩

variable {closed : Bool} {t : Text}

theorem Ends.behind (h : t.Ends closed) (u : Text) : (u ++ t).Ends closed := by
  intro own
  rw [← List.append_assoc]
  exact h (own ++ u)

theorem ends_pair {c d : Char} (h : ((c = ')' ∨ c = ']') ∧ d = ' ') ↔ closed = true) :
    Ends closed [c, d] := by
  intro own
  rw [closed_append_pair]
  exact h

theorem ends_parenthesis : Ends true [')', ' '] := ends_pair (by decide)

theorem ends_bracket : Ends true [']', ' '] := ends_pair (by decide)

theorem ends_opening : Ends false [':', '('] := ends_pair (by decide)

end Text

/-! ## What is written -/

theorem ends_renderLiteral {m : Modifier} {v : Text} (h : renderLiteral m v ≠ []) :
    (renderLiteral m v).Ends true := by
  unfold renderLiteral at h ⊢
  by_cases hv : Text.isBlank v = true
  · rw [if_pos hv] at h; exact absurd rfl h
  · rw [if_neg hv]; exact Text.ends_parenthesis.behind _

theorem ends_renderClause {m : Modifier} {t : Text} (h : renderClause m t ≠ []) :
    (renderClause m t).Ends true := by
  unfold renderClause at h ⊢
  by_cases ht : t.isEmpty = true
  · rw [if_pos ht] at h; exact absurd rfl h
  · rw [if_neg ht]; exact Text.ends_parenthesis.behind _

/-- Whatever a term gives, if it gives anything, ends with a closed clause. -/
theorem Term.ends_render {own : Text} {m : Modifier} {t : Term} (h : t.render own m ≠ []) :
    (t.render own m).Ends true := by
  cases t with
  | absent => exact absurd (by simp [Term.render]) h
  | literal v => simp only [Term.render] at h ⊢; exact ends_renderLiteral h
  | depiction shows => simp only [Term.render] at h ⊢; exact ends_renderLiteral h
  | embedded t => simp only [Term.render] at h ⊢; exact ends_renderClause h
  | receiver => simp only [Term.render] at h ⊢; exact ends_renderClause h
  | group members => simp only [Term.render] at h ⊢; exact ends_renderClause h

theorem ends_renderClosing (own : Text) : (renderClosing own).Ends true :=
  Text.ends_parenthesis.behind _

theorem ends_renderRange (own : Text) (field : Option Text) (start stop : Bound) (m : Modifier) :
    (renderRange own field start stop m).Ends true :=
  Text.ends_bracket.behind _

/-- A factor ends in a character of a number, which closes nothing. -/
theorem ends_renderBoost {f : Number} (h : renderBoost f ≠ []) : (renderBoost f).Ends false := by
  have hboost : renderBoost f = '^' :: (Boost.cut f).text ++ [' '] := by
    unfold renderBoost at h ⊢
    by_cases hone : f.equal (.int 1) = true
    · rw [if_pos hone] at h; exact absurd rfl h
    · rw [if_neg hone]
  have hplain : ∀ c ∈ '^' :: (Boost.cut f).text, c ≠ ')' ∧ c ≠ ']' := by
    intro c hc
    rcases List.mem_cons.mp hc with rfl | hc
    · decide
    · have hmem := (Boost.cut f).forall_mem_text c hc
      constructor
      · rintro rfl; exact absurd hmem (by decide)
      · rintro rfl; exact absurd hmem (by decide)
  have hne := List.cons_ne_nil '^' (Boost.cut f).text
  obtain ⟨hround, hsquare⟩ := hplain _ (List.getLast_mem hne)
  rw [hboost, ← List.dropLast_concat_getLast hne, List.append_assoc]
  exact (Text.ends_pair (by simp [hround, hsquare])).behind _

/-- A field ends with a closed clause unless a boost follows. -/
theorem ends_renderField (m : Modifier) (name inner : Text) (factor : Option Number) :
    (renderField m name inner factor).Ends ((factor.map renderBoost).getD []).isEmpty := by
  unfold renderField
  cases hboost : (factor.map renderBoost).getD [] with
  | nil =>
    rw [List.append_nil]
    exact Text.ends_parenthesis.behind _
  | cons c t =>
    cases factor with
    | none => cases hboost
    | some f =>
      have hf : renderBoost f = c :: t := hboost
      have hends := ends_renderBoost (f := f) (by rw [hf]; exact List.cons_ne_nil c t)
      rw [hf] at hends
      exact hends.behind _

/-! ## Calls -/

namespace Call

/-- Whether a call ends what it writes, if it writes anything, with a closed clause. -/
def closes : Call → Bool
  | .startField _ _ | .boost _ => false
  | .field _ _ _ factor _ => ((factor.map renderBoost).getD []).isEmpty
  | _ => true

/-- Whether a call writes a raw text, of which nothing is known. -/
def isRaw : Call → Bool
  | .unescaped _ _ | .unescapedField _ _ _ => true
  | _ => false

/-- A query that has grown by a text which, if there is any, ends as a call of this kind ends it. -/
def EndsAs (c : Call) (q q' : Query) : Prop :=
  ∃ t, q'.text = q.text ++ t ∧ (t ≠ [] → t.Ends c.closes)

variable {c : Call} {q : Query} {s : Scene}

theorem EndsAs.same {q' : Query} (h : q'.text = q.text) : c.EndsAs q q' :=
  ⟨[], by rw [h, List.append_nil], fun hne => absurd rfl hne⟩

theorem EndsAs.grew {t : Text} {q' : Query} (h : q.Grew t q') (ht : t ≠ [] → t.Ends c.closes) :
    c.EndsAs q q' :=
  ⟨t, h.text, ht⟩

/-- A call that first finds its modifier. -/
theorem EndsAs.on {r : Except QueryError Modifier} {k : Modifier → Scene} (hs : s.query = q)
    (h : ∀ m, c.EndsAs q (k m).query) : c.EndsAs q (s.on r k).2.query := by
  cases r with
  | error e => exact .same (congrArg Query.text hs)
  | ok m => exact h m

theorem endsAs_put (hs : s.query.buffer.Sound) (hc : c.closes = true) (w : Surroundings) (v : Value)
    (m : Modifier) : c.EndsAs s.query (s.put w v m).query := by
  refine .grew (wrote_put hs w v m).toGrew ?_
  rw [hc]
  exact Term.ends_render

theorem endsAs_putField (hs : s.query.buffer.Sound) {factor : Option Number}
    (hc : c.closes = ((factor.map renderBoost).getD []).isEmpty) (w : Surroundings)
    (name : Option Text) (v : Value) (m : Modifier) :
    c.EndsAs s.query (s.putField w name v m factor).query := by
  rcases s.query_putField_cases w name v m factor with hskipped | ⟨n, t, hwritten⟩
  · rw [hskipped]
    exact .same rfl
  · rw [hwritten]
    refine .grew (Query.wrote_writeField hs n m t factor).toGrew ?_
    rw [hc]
    exact fun _ => ends_renderField m n _ factor

theorem endsAs_writeRange (hs : q.buffer.Sound) (hc : c.closes = true) (field : Option Text)
    (start stop : Bound) (m : Modifier) : c.EndsAs q (q.writeRange field start stop m) := by
  refine .grew (Query.wrote_writeRange hs field start stop m).toGrew ?_
  rw [hc]
  exact fun _ => ends_renderRange q.text field start stop m

/-- **Every call** that writes no raw text ends what it writes in its own way. -/
theorem ends_run (w : Surroundings) (c : Call) (s : Scene) (hs : s.query.buffer.Sound)
    (hraw : c.isRaw = false) : c.EndsAs s.query (c.run w s).2.query := by
  cases c with
  | argument v m => rw [run_argument]; exact .on rfl fun m => endsAs_put hs rfl w v m
  | fuzzyArgument v m f => rw [run_fuzzyArgument]; exact .on rfl fun m => endsAs_put hs rfl w v m
  | field name v m factor allMembers =>
    rw [run_field]
    cases Boost.checkGiven factor with
    | error e => exact .same rfl
    | ok =>
      exact .on rfl fun m =>
        endsAs_putField (s := ⟨s.query, (v.settled s.shelf).2⟩) hs rfl w name _ m
  | fuzzyField name v m f =>
    rw [run_fuzzyField]
    cases m.resolveFuzzy s.query.modifier v.isGroup f with
    | error e => exact .same rfl
    | ok m => exact endsAs_putField (s := ⟨s.query, (v.settled s.shelf).2⟩) hs rfl w name _ m
  | range start stop m =>
    rw [run_range]
    rcases Bound.check s.query.text (start.bound w) (stop.bound w) with e | _ | ⟨a, b⟩
    · exact .same rfl
    · exact .same rfl
    · exact .on rfl fun m => endsAs_writeRange hs rfl none a b m
  | rangeField name start stop m =>
    rw [run_rangeField]
    rcases Bound.check s.query.text (start.bound w) (stop.bound w) with e | _ | ⟨a, b⟩
    · exact .same rfl
    · exact .same rfl
    · by_cases hname : Text.isMissing name = true
      · simp only [hname, if_true]
        exact .same rfl
      · simp only [hname]
        exact .on rfl fun m => endsAs_writeRange hs rfl name a b m
  | subquery query m => rw [run_subquery]; exact .on rfl fun m => endsAs_put hs rfl w _ m
  | startField name m =>
    rw [run_startField]
    refine .on rfl fun m => .grew (Query.wrote_startField hs name m).toGrew ?_
    by_cases hname : Text.isMissing name = true
    · rw [if_pos hname]; exact fun hne => absurd rfl hne
    · rw [if_neg hname]; exact fun _ => Text.ends_opening.behind _
  | endField =>
    rw [run_endField]
    cases s.query.openFields with
    | nil => exact .same rfl
    | cons field fields =>
      exact .grew (Query.wrote_closeField hs fields).toGrew fun _ => ends_renderClosing s.query.text
  | boost f =>
    rw [run_boost]
    cases Boost.check f with
    | error e => exact .same rfl
    | ok =>
      refine .grew (Query.grew_writeBoost hs f) ?_
      cases hsucceeded : s.query.succeeded with
      | false => exact fun hne => absurd rfl hne
      | true => exact ends_renderBoost
  | unescaped t mandatory => cases hraw
  | unescapedField name t mandatory => cases hraw
  | setModifier m =>
    rw [run_setModifier]
    cases m <;> exact .same rfl
  | setWildcarded on => rw [run_setWildcarded]; exact .on rfl fun m => .same rfl

end Call

/-! ## Runs -/

namespace Query

/-- The last call of a run that changed the text, if any did. -/
def lastWriter : Query → List Step → Option Call
  | _, [] => none
  | q, step :: steps =>
    (lastWriter (q.after step) steps).or
      (if (q.after step).text = q.text then none else some step.call)

/-- A step that adds nothing reports no success that was not reported before. -/
theorem succeeded_of_after {q : Query} (hq : q.buffer.Sound) {step : Step}
    (htext : (q.after step).text = q.text) (h : (q.after step).succeeded = true) :
    q.succeeded = true := by
  have hleaves := Call.leaves_run step.surroundings step.call ⟨q, step.shelf⟩ hq
  cases hr : (step.call.run step.surroundings ⟨q, step.shelf⟩).1 with
  | error e =>
    have hback : q.after step = q := hleaves.of_error hr
    rw [← hback]
    exact h
  | ok =>
    obtain ⟨t, ht⟩ := hleaves.of_ok hr
    by_cases hreports : step.call.reports = true
    · rw [if_pos hreports] at ht
      have hgrown : (q.after step).text = q.text ++ t := ht.text
      obtain rfl : t = [] := by simpa [htext] using hgrown
      have hreport : (q.after step).succeeded = false := ht.succeeded
      rw [hreport] at h
      cases h
    · rw [if_neg hreports] at ht
      have hkept : (q.after step).succeeded = q.succeeded := ht.2
      rw [← hkept]
      exact h

/-- **A run** ends its text as the last call did that wrote something; as long as none did, the text
    and a report of no success stay as they are. -/
theorem ends_run {q : Query} (hq : q.buffer.Sound) (steps : List Step)
    (hraw : ∀ step ∈ steps, step.call.isRaw = false) :
    match q.lastWriter steps with
    | some c => (q.run steps).text.Closed ↔ c.closes = true
    | none =>
      (q.run steps).text = q.text ∧ ((q.run steps).succeeded = true → q.succeeded = true) := by
  -- On the run from its first step: what the rest leaves open, the first step decides.
  induction steps generalizing q with
  | nil => exact ⟨rfl, fun h => h⟩
  | cons step steps ih =>
    have hfirst : (q.after step).buffer.Sound := sound_run [step] hq
    have hrest := ih hfirst fun step' hmem => hraw step' (List.mem_cons_of_mem step hmem)
    show match lastWriter q (step :: steps) with
      | some c => (run (q.after step) steps).text.Closed ↔ c.closes = true
      | none => (run (q.after step) steps).text = q.text ∧
        ((run (q.after step) steps).succeeded = true → q.succeeded = true)
    rw [lastWriter]
    cases hlast : lastWriter (q.after step) steps with
    | some c =>
      rw [hlast] at hrest
      exact hrest
    | none =>
      -- Nothing was written behind the first step, so the text ends as that step left it.
      rw [hlast] at hrest
      obtain ⟨htext, hsucceeded⟩ := hrest
      by_cases hsame : (q.after step).text = q.text
      · rw [if_pos hsame]
        exact ⟨htext.trans hsame, fun h => succeeded_of_after hq hsame (hsucceeded h)⟩
      · rw [if_neg hsame]
        obtain ⟨t, ht, hends⟩ :=
          Call.ends_run step.surroundings step.call ⟨q, step.shelf⟩ hq (hraw step List.mem_cons_self)
        have hgrown : (q.after step).text = q.text ++ t := ht
        have hne : t ≠ [] := by
          rintro rfl
          exact hsame (by rw [hgrown, List.append_nil])
        show (run (q.after step) steps).text.Closed ↔ step.call.closes = true
        rw [htext, hgrown]
        exact hends hne q.text

/-- A boost that changes the text adds its factor, behind a call that reported a success. -/
theorem text_after_boost {q : Query} (hq : q.buffer.Sound) (w : Surroundings) (shelf : Shelf)
    (f : Number) (hchanged : (q.after ⟨w, shelf, .boost f⟩).text ≠ q.text) :
    (q.after ⟨w, shelf, .boost f⟩).text = q.text ++ renderBoost f ∧ q.succeeded = true := by
  have hrun : q.after ⟨w, shelf, .boost f⟩ = ((Call.boost f).run w ⟨q, shelf⟩).2.query := rfl
  rw [run_boost] at hrun
  cases hf : Boost.check f with
  | error e =>
    rw [hf] at hrun
    exact absurd (congrArg Query.text hrun) hchanged
  | ok =>
    rw [hf] at hrun
    have hboost : q.after ⟨w, shelf, .boost f⟩ = q.writeBoost f := hrun
    have hgrown := (grew_writeBoost hq f).text
    rw [← hboost] at hgrown
    cases hs : q.succeeded with
    | false => rw [hs] at hgrown; exact absurd (by simpa using hgrown) hchanged
    | true => rw [hs] at hgrown; exact ⟨hgrown, rfl⟩

/-- **What stands in front of a boost.**  After a run without raw texts, a boost that changes the
    text adds its factor, some call has written before, and the text in front of the factor ends
    with a closed clause exactly if the last such call ended it with one: it did unless it only
    opened a field, was a boost itself, or wrote a field with a boost of its own. -/
theorem closed_before_boost_iff (m : Option Modifier) (t : Text) (steps : List Step)
    (hraw : ∀ step ∈ steps, step.call.isRaw = false) (w : Surroundings) (shelf : Shelf)
    (f : Number) :
    let q := (new m t).run steps
    let q' := q.after ⟨w, shelf, .boost f⟩
    q'.text ≠ q.text → q'.text = q.text ++ renderBoost f ∧
      ∃ c, (new m t).lastWriter steps = some c ∧ (q.text.Closed ↔ c.closes = true) := by
  intro q q' hchanged
  have hnew : (new m t).buffer.Sound := Buffer.sound_ofText t
  obtain ⟨htext, hsucceeded⟩ := text_after_boost (sound_run steps hnew) w shelf f hchanged
  refine ⟨htext, ?_⟩
  have hends := ends_run hnew steps hraw
  cases hlast : (new m t).lastWriter steps with
  | none =>
    -- A new query reports no success, and a boost would not have been written.
    rw [hlast] at hends
    have hnever : (new m t).succeeded = true := hends.2 hsucceeded
    cases hnever
  | some c =>
    rw [hlast] at hends
    exact ⟨c, rfl, hends⟩

/-- A boost behind a clause, and one in a field that was only just opened. -/
theorem closed_before_boost_iff_opened :
    let w : Surroundings := ⟨⟨fun _ => [], fun _ => {}⟩, (· == .query 0)⟩
    let written := (new none []).run [⟨w, [], .argument (.text ['x']) .absent⟩]
    let opened := (new none []).run [⟨w, [], .startField (some ['f']) .absent⟩]
    let boost : Step := ⟨w, [], .boost (.int 2)⟩
    (written.after boost).text ≠ written.text ∧ written.text.Closed ∧
      (opened.after boost).text ≠ opened.text ∧ ¬ opened.text.Closed := by
  intro w written opened boost
  have hwritten : (written.after boost).text ≠ written.text := by decide +kernel
  have hopened : (opened.after boost).text ≠ opened.text := by decide +kernel
  obtain ⟨-, c, hc, hclosed⟩ := closed_before_boost_iff none []
    [⟨w, [], .argument (.text ['x']) .absent⟩] (by decide) w [] (.int 2) hwritten
  obtain ⟨-, d, hd, hbare⟩ := closed_before_boost_iff none []
    [⟨w, [], .startField (some ['f']) .absent⟩] (by decide) w [] (.int 2) hopened
  have hcloses : ((new none []).lastWriter
      [⟨w, [], .argument (.text ['x']) .absent⟩]).map Call.closes = some true := by decide +kernel
  have hopens : ((new none []).lastWriter
      [⟨w, [], .startField (some ['f']) .absent⟩]).map Call.closes = some false := by decide +kernel
  rw [hc] at hcloses
  rw [hd] at hopens
  refine ⟨hwritten, hclosed.mpr (Option.some.inj hcloses), hopened, fun h => ?_⟩
  have hends : d.closes = true := hbare.mp h
  rw [Option.map_some, hends] at hopens
  cases hopens

/-- Two boosts that are not attached to a clause: the field they stand in was only just opened, or a
    boost stands before them already. -/
theorem boost_without_clause :
    let w : Surroundings := ⟨⟨fun _ => [], fun _ => {}⟩, (· == .query 0)⟩
    let opened := (new none []).run [⟨w, [], .startField (some ['f']) .absent⟩]
    let boosted := (new none []).run
      [⟨w, [], .argument (.text ['x']) .absent⟩, ⟨w, [], .boost (.int 2)⟩]
    opened.text = "f:(".toList ∧ ¬ opened.text.Closed ∧
      (opened.after ⟨w, [], .boost (.int 2)⟩).text = "f:(^2.0 ".toList ∧
      boosted.text = "(x) ^2.0 ".toList ∧ ¬ boosted.text.Closed ∧
      (boosted.after ⟨w, [], .boost (.int 3)⟩).text = "(x) ^2.0 ^3.0 ".toList := by
  decide +kernel

end Query
end SearchQuery

/-
  How the text of a query that is built comes about.

  1. **Steps** — `Progress.Holds h m t`: the query of `h` has the default modifier `m` and the text `t`.  From
     there a step adds a text to it (`Adds`), or refuses the arguments (`Refuses`); both are composed along
     a sequence and along a loop.
  2. **Clauses** — what the terms, a field and a range say under a modifier, without a query, and when they
     say anything.  Each of the three steps adds its clause, unless it refuses the form of its operand.
  3. **Boosts (`outcome_boosted`)** — with a boost the whole text becomes one clause of a second query.
-/
import SearchQuery.CommandLine.Build
import SearchQuery.Proofs.CommandLine.Operand
import SearchQuery.Proofs.Query.Skipping
import SearchQuery.Proofs.Store.Independence
import SearchQuery.Proofs.Text.Strip

namespace SearchQuery.CommandLine

/-! ## Steps -/

namespace Building

variable {α β : Type}

/-- How steps end that begin with some progress. -/
def outcome (c : Building α) (d : Progress) : Except BuildFault α × Progress := c.run.run d

theorem outcome_bind (c : Building α) (k : α → Building β) (d : Progress) :
    (c >>= k).outcome d = match c.outcome d with
      | (.ok a, d') => (k a).outcome d'
      | (.error e, d') => (.error e, d') := by
  unfold outcome
  rw [ExceptT.run_bind, StateT.run_bind]
  rcases c.run.run d with ⟨r, d'⟩
  cases r <;> rfl

theorem outcome_bind_of_ok {c : Building α} {d d' : Progress} {a : α} (h : c.outcome d = (.ok a, d'))
    (k : α → Building β) : (c >>= k).outcome d = (k a).outcome d' := by
  rw [outcome_bind, h]

theorem outcome_bind_of_error {c : Building α} {d d' : Progress} {f : BuildFault}
    (h : c.outcome d = (.error f, d')) (k : α → Building β) :
    (c >>= k).outcome d = (.error f, d') := by
  rw [outcome_bind, h]

@[simp] theorem outcome_pure (a : α) (d : Progress) : (pure a : Building α).outcome d = (.ok a, d) := rfl

@[simp] theorem outcome_throw (f : BuildFault) (d : Progress) :
    (throw f : Building α).outcome d = (.error f, d) := rfl

@[simp] theorem outcome_get (d : Progress) : (get : Building Progress).outcome d = (.ok d, d) := rfl

@[simp] theorem outcome_set (d d' : Progress) : (set d' : Building Unit).outcome d = (.ok (), d') := rfl

@[simp] theorem outcome_newQuery (m : Modifier) (d : Progress) :
    (newQuery m).outcome d = (.ok (d.store.addQuery (.new (some m) [])).1,
      { d with store := (d.store.addQuery (.new (some m) [])).2 }) := rfl

theorem outcome_call (h : Handle) (c : Call) (d : Progress) :
    (call h c).outcome d
      = ((d.store.call h c).1.mapError .query, { d with store := (d.store.call h c).2 }) := by
  simp only [call, outcome_bind, outcome_get, outcome_set]
  cases hcall : (d.store.call h c).1 <;> rfl

end Building

/-- The query of a handle has a default modifier and a text, and takes calls. -/
structure Progress.Holds (d : Progress) (h : Handle) (m : Modifier) (t : Text) : Prop where
  sound : d.store.Sound
  there : h.terminal < d.store.queries.length
  isOpen : d.store.isLocked h = false
  modifier : d.store.modifier h = m
  text : d.store.text h = t

namespace Progress

variable {d d' : Progress} {g h : Handle} {m : Modifier} {t u : Text}

/-- What is noted does not matter. -/
theorem Holds.of_store (hd : d.Holds h m t) (hstore : d'.store = d.store) : d'.Holds h m t := by
  obtain ⟨hsound, hthere, hopen, hmodifier, htext⟩ := hd
  rw [← hstore] at hsound hthere hopen hmodifier htext
  exact ⟨hsound, hthere, hopen, hmodifier, htext⟩

/-- **A call** that gives a text and leaves the default modifier alone. -/
theorem Holds.call (hd : d.Holds h m t) {c : Call} {r : Except QueryError Unit × Scene}
    (hr : c.run (d.store.around h) ⟨d.store.query h, d.store.shelf⟩ = r)
    (hmodifier : r.2.query.modifier = (d.store.query h).modifier)
    (hgives : c.Gives (d.store.around h) ⟨d.store.query h, d.store.shelf⟩ u) :
    ∃ d', (Building.call h c).outcome d = (.ok (), d') ∧ d'.Holds h m (t ++ u) ∧
      d'.store.query h = r.2.query := by
  subst hr
  have hcall := Store.call_of_open hd.isOpen c
  have hfirst : (d.store.call h c).1 = .ok () := by
    rw [hcall]
    exact hgives.1
  have hquery : (d.store.call h c).2.query h
      = (c.run (d.store.around h) ⟨d.store.query h, d.store.shelf⟩).2.query := by
    rw [hcall]
    exact Store.query_set_of_eq rfl hd.there _ _
  refine ⟨{ d with store := (d.store.call h c).2 }, by rw [Building.outcome_call, hfirst]; rfl,
    ⟨(hd.sound.onQuery h (c.grows _)).sound, ?_, ?_, ?_, ?_⟩, hquery⟩
  · show h.terminal < (d.store.call h c).2.queries.length
    rw [hcall]
    simpa using hd.there
  · show (d.store.call h c).2.isLocked h = false
    rw [hcall]
    exact hd.isOpen
  · show ((d.store.call h c).2.query h).modifier = m
    rw [hquery, hmodifier]
    exact hd.modifier
  · show ((d.store.call h c).2.query h).text = t ++ u
    rw [hquery, hgives.2]
    exact congrArg (· ++ u) hd.text

/-- **A new query** holds nothing, and stands beside the others. -/
theorem holds_newQuery (hd : d.store.Sound) (m : Modifier) :
    ({ d with store := (d.store.addQuery (.new (some m) [])).2 } : Progress).Holds
      (d.store.addQuery (.new (some m) [])).1 m [] where
  sound := hd.addQuery (some m) []
  there := by simp [Store.addQuery, Handle.terminal]
  isOpen := rfl
  modifier := by rw [Store.modifier, Store.query_addQuery_new]; rfl
  text := by rw [Store.text, Store.query_addQuery_new]; rfl

end Progress

namespace Building

variable {α : Type} {h : Handle} {m : Modifier} {u v : Text} {c k : Building Unit}

/-- Steps that return, and add a text to the query of a handle. -/
def Adds (h : Handle) (m : Modifier) (c : Building Unit) (u : Text) : Prop :=
  ∀ d t, d.Holds h m t → ∃ d', c.outcome d = (.ok (), d') ∧ d'.Holds h m (t ++ u)

/-- Steps that refuse the arguments. -/
def Refuses (h : Handle) (m : Modifier) (c : Building α) : Prop :=
  ∀ d t, d.Holds h m t → ∃ f d', c.outcome d = (.error (.usage f), d')

/-- A call that reports if it wrote anything, and gives a text to every query. -/
theorem adds_call {call' : Call} (hreports : call'.reports = true)
    (hgives : ∀ (d : Progress) t, d.Holds h m t →
      call'.Gives (d.store.around h) ⟨d.store.query h, d.store.shelf⟩ u) :
    Adds h m (call h call') u := by
  intro d t hd
  obtain ⟨d', hrun, hd', -⟩ := hd.call rfl (Call.modifier_run _ _ hreports) (hgives d t hd)
  exact ⟨d', hrun, hd'⟩

theorem adds_pure : Adds h m (pure ()) [] :=
  fun d t hd => ⟨d, rfl, by rwa [List.append_nil]⟩

theorem Adds.seq (hc : Adds h m c u) (hk : Adds h m k v) : Adds h m (do c; k) (u ++ v) := by
  intro d t hd
  obtain ⟨d', hrun, hd'⟩ := hc d t hd
  obtain ⟨d'', hrun', hd''⟩ := hk d' _ hd'
  exact ⟨d'', by rw [outcome_bind_of_ok hrun, hrun'], by rwa [← List.append_assoc]⟩

theorem Refuses.seq (hc : Refuses h m c) (k : Building α) : Refuses h m (do c; k) := by
  intro d t hd
  obtain ⟨f, d', hrun⟩ := hc d t hd
  exact ⟨f, d', outcome_bind_of_error hrun _⟩

theorem Adds.refuses (hc : Adds h m c u) {k : Building α} (hk : Refuses h m k) :
    Refuses h m (do c; k) := by
  intro d t hd
  obtain ⟨d', hrun, hd'⟩ := hc d t hd
  obtain ⟨f, d'', hrun'⟩ := hk d' _ hd'
  exact ⟨f, d'', by rw [outcome_bind_of_ok hrun, hrun']⟩

/-- A step for each of some operands, in their order. -/
def forEach (f : Text → Building Unit) (raws : List Text) : Building Unit := do
  for raw in raws do f raw

theorem forEach_cons (f : Text → Building Unit) (raw : Text) (raws : List Text) :
    forEach f (raw :: raws) = (do f raw; forEach f raws) := by
  simp [forEach]

section Loops

variable {f : Text → Building Unit} {form : Text → Prop} {clause : Text → Text} {raws : List Text}

/-- **A loop** over operands of the right form adds a clause for each of them. -/
theorem adds_forEach (hform : ∀ raw, form raw → Adds h m (f raw) (clause raw))
    (hraws : ∀ raw ∈ raws, form raw) : Adds h m (forEach f raws) (raws.map clause).flatten := by
  induction raws with
  | nil => exact adds_pure
  | cons raw raws ih =>
    rw [forEach_cons]
    exact (hform raw (hraws raw List.mem_cons_self)).seq
      (ih fun r hr => hraws r (List.mem_cons_of_mem raw hr))

/-- It refuses the first operand that has not the right form. -/
theorem refuses_forEach (hform : ∀ raw, form raw → Adds h m (f raw) (clause raw))
    (hother : ∀ raw, ¬ form raw → Refuses h m (f raw)) (hraws : ¬ ∀ raw ∈ raws, form raw) :
    Refuses h m (forEach f raws) := by
  induction raws with
  | nil => exact absurd (fun raw hraw => nomatch hraw) hraws
  | cons raw raws ih =>
    -- What was added before the operand at fault stays in the query; the loop ends with the fault.
    rw [forEach_cons]
    by_cases hraw : form raw
    · exact (hform raw hraw).refuses (ih fun h => hraws (List.forall_mem_cons.mpr ⟨hraw, h⟩))
    · exact (hother raw hraw).seq _

end Loops

end Building

/-! ## Clauses -/

/-- The clause of the terms: that of the only one, or that of the group of them. -/
def termsClause (m : Modifier) : List Text → Text
  | [] => []
  | [t] => renderLiteral m t
  | ts => renderClause m (ts.flatMap (renderLiteral m.element))

/-- The clause of a field; there is none if there is nothing to search for. -/
def fieldClause (m : Modifier) (raw : Text) : Text :=
  if Text.isBlank (valuePart raw) then []
  else renderField m (Text.strip (namePart raw)) (renderLiteral m.nested (valuePart raw)) none

/-- The bound that stands for a scalar. -/
def boundOf (s : Scalar) : Bound := ⟨fun _ => s.written, (Value.scalar s).number?⟩

/-- Whether nothing lies between two bounds: one is blank, or they are numbers and the first is above
    the second. -/
def nothingBetween (start stop : Scalar) : Bool :=
  Text.isBlank start.written || Text.isBlank stop.written || Bound.inverted (boundOf start) (boundOf stop)

/-- The clause of a range; there is none if nothing lies between its bounds. -/
def rangeClause (m : Modifier) (raw : Text) : Text :=
  match Text.cut ['.', '.'] (valuePart raw) with
  | none => []
  | some (start, stop) =>
    if nothingBetween (bound start) (bound stop) then []
    else renderRange [] (some (Text.strip (namePart raw))) (boundOf (bound start))
      (boundOf (bound stop)) m

theorem flatMap_renderLiteral_eq_nil_iff (m : Modifier) (ts : List Text) :
    ts.flatMap (renderLiteral m) = [] ↔ ∀ t ∈ ts, Text.isBlank t = true := by
  rw [List.flatMap_eq_nil_iff]
  exact forall_congr' fun t => imp_congr_right fun _ => renderLiteral_eq_nil_iff

theorem termsClause_eq_nil_iff {m : Modifier} {ts : List Text} :
    termsClause m ts = [] ↔ ∀ t ∈ ts, Text.isBlank t = true := by
  match ts with
  | [] => exact iff_of_true rfl fun t ht => nomatch ht
  | [t] => rw [termsClause, renderLiteral_eq_nil_iff, List.forall_mem_singleton]
  | t :: t' :: ts =>
    exact renderClause_eq_nil_iff.trans (flatMap_renderLiteral_eq_nil_iff m.element (t :: t' :: ts))

theorem fieldClause_eq_nil_iff {m : Modifier} {raw : Text} :
    fieldClause m raw = [] ↔ Text.isBlank (valuePart raw) = true := by
  rw [fieldClause, ite_eq_left_iff]
  exact ⟨fun h => Classical.not_not.mp fun hblank => Query.renderField_ne_nil _ _ _ _ (h hblank),
    fun hblank hnot => absurd hblank hnot⟩

theorem rangeClause_ne_nil_iff {m : Modifier} {raw : Text} :
    rangeClause m raw ≠ [] ↔ ∃ start stop, Text.cut ['.', '.'] (valuePart raw) = some (start, stop) ∧
      nothingBetween (bound start) (bound stop) = false := by
  rw [rangeClause]
  cases hcut : Text.cut ['.', '.'] (valuePart raw) with
  | none => exact iff_of_false (fun h => h rfl) fun ⟨_, _, h, _⟩ => nomatch h
  | some bounds =>
    obtain ⟨start, stop⟩ := bounds
    cases hnothing : nothingBetween (bound start) (bound stop) with
    | true =>
      refine iff_of_false (fun h => h (if_pos hnothing)) ?_
      rintro ⟨_, _, heq, hsome⟩
      cases heq
      rw [hnothing] at hsome
      cases hsome
    | false =>
      refine iff_of_true ?_ ⟨start, stop, rfl, hnothing⟩
      simp [hnothing, renderRange]

theorem bound_ne_null (raw : Text) : bound raw ≠ .null := by
  unfold bound
  cases Numeral.int? raw with
  | some n => exact nofun
  | none => cases Numeral.double? raw <;> exact nofun

theorem isBlank_strip_namePart {raw : Text} (h : IsAssignment raw) :
    Text.isBlank (Text.strip (namePart raw)) = false := by
  rw [Text.isBlank_strip]
  exact h.name

namespace Building

variable {h : Handle} {m : Modifier} {u : Text} {raw : Text}

theorem adds_noteSkipped (n : Note) : Adds h m (noteSkipped h n) [] := by
  intro d t hd
  refine ⟨_, rfl, ?_⟩
  rw [List.append_nil]
  refine hd.of_store ?_
  dsimp only
  split <;> rfl

theorem adds_argument (hm : m.Valid) {v : Value} (hv : v.streamless = true)
    (hr : ∀ p, v.mentions p = false) (hu : ∀ qs, v.render qs m = u) :
    Adds h m (call h (.argument v .absent)) u := by
  refine adds_call rfl fun d t hd => ?_
  have hmodifier : (d.store.query h).modifier = m := hd.modifier
  have hgives := Call.gives_argument (M := .absent) (w := d.store.around h)
    (s := ⟨d.store.query h, d.store.shelf⟩) (hd.sound.query h) (hmodifier ▸ hm) trivial
    (Value.means_term _ hv (hr _) _)
  rwa [ModifierArg.meant, hmodifier, hu] at hgives

theorem streamless_texts (ts : List Text) : Value.allStreamless (ts.map Value.text) = true := by
  induction ts with
  | nil => rfl
  | cons t ts ih => exact ih

theorem not_mentions_texts (p : Handle → Bool) (ts : List Text) :
    Value.anyMentions p (ts.map Value.text) = false := by
  induction ts with
  | nil => rfl
  | cons t ts ih => exact ih

theorem renderAll_texts (qs : Queries) (m : Modifier) (ts : List Text) :
    Value.renderAll qs m (ts.map Value.text) = ts.flatMap (renderLiteral m) := by
  induction ts with
  | nil => rfl
  | cons t ts ih =>
    have hkept : (Value.text t).kept qs = !Text.isBlank t := rfl
    have hrender : (Value.text t).render qs m = renderLiteral m t := rfl
    rw [List.map_cons, Value.renderAll, hkept, hrender, ih, List.flatMap_cons]
    cases hblank : Text.isBlank t with
    | true => rw [renderLiteral_eq_nil_iff.mpr hblank]; rfl
    | false => rfl

/-- **The terms** add their clause. -/
theorem adds_terms (hm : m.Valid) (ts : List Text) : Adds h m (terms h ts) (termsClause m ts) := by
  -- One term is written by itself; a group of one would have a clause around it.
  match ts with
  | [] => exact adds_pure
  | [t] => exact adds_argument hm rfl (fun p => rfl) fun qs => rfl
  | t :: t' :: ts =>
    refine adds_argument hm (streamless_texts (t :: t' :: ts)) ?_ fun qs => ?_
    · exact fun p => not_mentions_texts p (t :: t' :: ts)
    · exact congrArg (renderClause m) (renderAll_texts qs m.element (t :: t' :: ts))

/-- A field of which the value is blank gives nothing. -/
theorem gives_field_of_blank {w : Surroundings} {s : Scene} {M : ModifierArg} {v : Value}
    (hs : s.query.modifier.Valid) (hM : M.Valid) (hv : v.streamless = true)
    (hblank : (v.isBlank (w.when s.query.text) s.shelf).1 = true) (name : Text)
    (allMembers : Option Bool) : (Call.field (some name) v M none allMembers).Gives w s [] := by
  have hrun : (Call.field (some name) v M none allMembers).run w s = (.ok (),
      (⟨s.query, (v.settled s.shelf).2⟩ : Scene).putField w (some name) (v.settled s.shelf).1
        ((M.meant s.query.modifier v.isGroup).forMembers allMembers) none) := by
    rw [run_field, ModifierArg.resolveField_eq hs hM]; rfl
  have hlooked := Value.isBlank_settled hv (w.when s.query.text) s.shelf
  refine ⟨by rw [hrun], ?_⟩
  rw [hrun, Scene.query_putField_of_blank (by rw [hlooked]; exact hblank), List.append_nil]
  rfl

/-- **A field** adds its clause, if it has the form of an assignment. -/
theorem adds_field (hm : m.Valid) (hraw : IsAssignment raw) :
    Adds h m (field h raw) (fieldClause m raw) := by
  have hcall : Adds h m (call h (.field (some (Text.strip (namePart raw))) (.text (valuePart raw))
      .absent none none)) (fieldClause m raw) := by
    refine adds_call rfl fun d t hd => ?_
    have hmodifier : (d.store.query h).modifier = m := hd.modifier
    -- A field whose value is blank is not opened.
    by_cases hblank : Text.isBlank (valuePart raw) = true
    · rw [fieldClause, if_pos hblank]
      exact gives_field_of_blank (w := d.store.around h) (s := ⟨d.store.query h, d.store.shelf⟩)
        (M := .absent) (v := .text (valuePart raw)) (hmodifier ▸ hm) trivial rfl hblank _ none
    · have hgives := Call.gives_field (M := .absent) (w := d.store.around h)
        (s := ⟨d.store.query h, d.store.shelf⟩) (v := .text (valuePart raw)) (hd.sound.query h)
        (hmodifier ▸ hm) trivial rfl rfl (isBlank_strip_namePart hraw) (Bool.eq_false_iff.mpr hblank)
        (show Boost.checkGiven none = .ok () from rfl) none
      rw [ModifierArg.meant, hmodifier] at hgives
      rw [fieldClause, if_neg hblank]
      exact hgives
  rw [field, assignment_of_isAssignment hraw]
  have hadds := hcall.seq (adds_noteSkipped (h := h) (.field (Text.strip (namePart raw))))
  rwa [List.append_nil] at hadds

theorem refuses_field (hraw : ¬ IsAssignment raw) : Refuses h m (field h raw) := by
  rw [field, assignment_of_not hraw]
  exact fun d t hd => ⟨_, d, rfl⟩

theorem bound_scalar {s : Scalar} (hs : s ≠ .null) (w : Surroundings) :
    (Value.scalar s).bound w = some (boundOf s) := by
  have habsent := Value.isAbsent_of_isLiteral (Value.isLiteral_scalar hs)
  rw [Value.bound, habsent]
  rfl

/-- A range with a name and two bounds gives nothing or the range. -/
theorem gives_rangeField (w : Surroundings) {s : Scene} (hq : s.query.buffer.Sound) {name : Text}
    (hname : Text.isBlank name = false) {start stop : Scalar} (hstart : start ≠ .null)
    (hstop : stop ≠ .null) (hmodifier : s.query.modifier = m) :
    (Call.rangeField (some name) (.scalar start) (.scalar stop) .absent).Gives w s
      (if nothingBetween start stop then []
       else renderRange [] (some name) (boundOf start) (boundOf stop) m) := by
  have hcheck : Bound.check s.query.text (some (boundOf start)) (some (boundOf stop))
      = if nothingBetween start stop then .ok none else .ok (some (boundOf start, boundOf stop)) := rfl
  rw [Call.Gives, run_rangeField, bound_scalar hstart, bound_scalar hstop, hcheck]
  by_cases hnothing : nothingBetween start stop = true
  · rw [if_pos hnothing, if_pos hnothing]
    exact ⟨rfl, (List.append_nil _).symm⟩
  · rw [if_neg hnothing, if_neg hnothing]
    simp only [Text.isMissing, hname, ModifierArg.resolve, hmodifier]
    exact ⟨rfl, (Query.wrote_writeRange hq (some name) (boundOf start) (boundOf stop) m).text⟩

/-- **A range** adds its clause, if it has the form of a range. -/
theorem adds_range (hraw : IsRange raw) :
    Adds h m (range h raw) (rangeClause m raw) := by
  obtain ⟨start, stop, hcut, hrange⟩ := range_of_isRange hraw
  have hcall : Adds h m (call h (.rangeField (some (Text.strip (namePart raw))) (.scalar (bound start))
      (.scalar (bound stop)) .absent)) (rangeClause m raw) := by
    refine adds_call rfl fun d t hd => ?_
    rw [rangeClause, hcut]
    exact gives_rangeField (d.store.around h) (s := ⟨d.store.query h, d.store.shelf⟩)
      (hd.sound.query h) (isBlank_strip_namePart hraw.toIsAssignment) (bound_ne_null start)
      (bound_ne_null stop) hd.modifier
  rw [range, hrange]
  have hadds := hcall.seq (adds_noteSkipped (h := h)
    (.range (Text.strip (namePart raw)) (bound start) (bound stop)))
  rwa [List.append_nil] at hadds

theorem refuses_range (hraw : ¬ IsRange raw) : Refuses h m (range h raw) := by
  by_cases hassigned : IsAssignment raw
  · rw [range, range_of_not_isRange hassigned hraw]
    exact fun d t hd => ⟨_, d, rfl⟩
  · rw [range, range_of_not_isAssignment hassigned]
    exact fun d t hd => ⟨_, d, rfl⟩

end Building

/-! ## Boosts -/

/-- The text of a query with the boost that is asked for: all of it is one clause then. -/
def boostedText (t : Text) : Option Double → Text
  | none => t
  | some b => '(' :: t ++ [')', ' '] ++ renderBoost (.double b)

/-- A call that gives a text reports whether that is empty. -/
theorem succeeded_of_gives {w : Surroundings} {s : Scene} {c : Call} {u : Text}
    (hs : s.query.buffer.Sound) (hc : c.reports = true) (hgives : c.Gives w s u) :
    (c.run w s).2.query.succeeded = !u.isEmpty := by
  obtain ⟨u', hu'⟩ := (Call.leaves_run w c s hs).of_ok hgives.1
  rw [if_pos hc] at hu'
  obtain rfl : u = u' := List.append_cancel_left (hgives.2.symm.trans hu'.text)
  exact hu'.succeeded

namespace Building

variable {d : Progress} {h : Handle} {m : Modifier} {t : Text} {boost : Option Double} {b : Double}

/-- **The whole text becomes one clause** of a second query. -/
theorem outcome_embedded (hd : d.Holds h m t) (hm : m.Valid) (ht : t ≠ []) :
    ∃ g d', (∀ k : Handle → Building Text, (do
        let outer ← newQuery m
        call outer (.subquery (some h) (.mandatory false))
        k outer).outcome d = (k g).outcome d') ∧
      d'.Holds g m ('(' :: t ++ [')', ' ']) ∧ (d'.store.query g).succeeded = true := by
  have hnew := Progress.holds_newQuery hd.sound m
  generalize hg : (d.store.addQuery (.new (some m) [])).1 = g at hnew
  generalize hd₁ : ({ d with store := (d.store.addQuery (.new (some m) [])).2 } : Progress) = d₁ at hnew
  have hmodifier : (d₁.store.query g).modifier = m := hnew.modifier
  have htext : (d₁.store.around g).text h = t := by
    subst hd₁
    show ((d.store.addQuery (.new (some m) [])).2.query h).text = t
    rw [Store.query_addQuery_old hd.there]
    exact hd.text
  -- The first query stands beside the new one, so its text stays the same while that is written.
  have hother : ∀ g', some h = some g' → (d₁.store.around g).isReceiver g' = false := by
    intro g' hg'
    cases hg'
    subst hg
    exact beq_false_of_ne (Nat.ne_of_lt hd.there)
  have hgives : (Call.subquery (some h) (.mandatory false)).Gives (d₁.store.around g)
      ⟨d₁.store.query g, d₁.store.shelf⟩ ('(' :: t ++ [')', ' ']) := by
    have h₁ := Call.gives_subquery (M := .mandatory false) (w := d₁.store.around g)
      (s := ⟨d₁.store.query g, d₁.store.shelf⟩) (hnew.sound.query g) (hmodifier ▸ hm) trivial hother
    have hclause : ∀ m', (Value.query h).render (d₁.store.around g).toQueries m' = renderClause m' t :=
      fun m' => by rw [Value.render, htext]
    rw [Option.elim_some, hclause, renderClause, if_neg (by simpa using ht)] at h₁
    exact h₁
  have hsucceeded := succeeded_of_gives (hnew.sound.query g) rfl hgives
  obtain ⟨d₂, hrun, hd₂, hquery⟩ := hnew.call rfl (Call.modifier_run _ _ rfl) hgives
  refine ⟨g, d₂, fun k => ?_, hd₂, by rw [hquery]; exact hsucceeded⟩
  rw [outcome_bind, outcome_newQuery, hg, hd₁]
  exact outcome_bind_of_ok hrun _

/-- **The text** with its boost. -/
theorem outcome_boosted (hd : d.Holds h m t) (hm : m.Valid) (ht : t ≠ [])
    (hboost : ∀ b, boost = some b → Boost.isFactor (.double b) = true) :
    ∃ d', (boosted h m boost).outcome d = (.ok (boostedText t boost), d') := by
  cases boost with
  | none => exact ⟨d, congrArg (fun t => (Except.ok t, d)) hd.text⟩
  | some b =>
    obtain ⟨g, d₁, hrun, hd₁, hsucceeded⟩ := outcome_embedded hd hm ht
    have hcheck : Boost.check (.double b) = .ok () := Boost.check_eq_ok_iff.mpr (hboost b rfl)
    have hcall : (Call.boost (.double b)).run (d₁.store.around g) ⟨d₁.store.query g, d₁.store.shelf⟩
        = (.ok (), ⟨(d₁.store.query g).writeBoost (.double b), d₁.store.shelf⟩) := by
      rw [run_boost, hcheck]; rfl
    have hgrew := Query.grew_writeBoost (hd₁.sound.query g) (.double b)
    rw [hsucceeded, if_pos rfl] at hgrew
    obtain ⟨d₂, hboosted, hd₂, -⟩ := hd₁.call hcall (Query.sameFrame_writeBoost _ _).modifier
      ⟨by rw [hcall], by rw [hcall]; exact hgrew.text⟩
    refine ⟨d₂, ?_⟩
    rw [boosted, hrun, outcome_bind_of_ok hboosted]
    exact congrArg (fun t => (Except.ok t, d₂)) hd₂.text

/-- A boost that is none is refused. -/
theorem refused_boosted (hd : d.Holds h m t) (hm : m.Valid) (ht : t ≠ [])
    (hb : Boost.isFactor (.double b) = false) :
    ∃ d', (boosted h m (some b)).outcome d = (.error (.query (.invalidBoost (.double b))), d') := by
  obtain ⟨g, d₁, hrun, hd₁, -⟩ := outcome_embedded hd hm ht
  have hcheck : Boost.check (.double b) = .error (.invalidBoost (.double b)) := by
    rw [Boost.check, hb]; rfl
  have hcall : (d₁.store.call g (.boost (.double b))).1 = .error (.invalidBoost (.double b)) := by
    rw [Store.call_of_open hd₁.isOpen, run_boost, hcheck]
  obtain ⟨d₂, hboosted⟩ : ∃ d₂, (call g (.boost (.double b))).outcome d₁
      = (.error (.query (.invalidBoost (.double b))), d₂) := ⟨_, by rw [outcome_call, hcall]; rfl⟩
  exact ⟨d₂, by rw [boosted, hrun, outcome_bind_of_error hboosted]⟩

end Building
end SearchQuery.CommandLine

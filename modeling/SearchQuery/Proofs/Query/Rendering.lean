/-
  What values look like in a query, without a query.

  1. **Specification** — `Value.render qs m v` puts the clause of a value together from the clauses
     of its parts: no buffer, no order of writing, nothing to take back.  It is said for values that
     can be read again and again (`Value.streamless`), and `ModifierArg.meant` says which modifier a
     caller means.
  2. **Terms (`means_termWith`)** — a value that holds no stream and not the receiver becomes a term
     whose rendering is that of the value under every modifier and behind every text.
  3. **Calls (`Reached.gives_rendering`)** — each call that takes a value returns and adds exactly
     the rendering of that value under the modifier that is meant.
-/
import SearchQuery.Proofs.Query.Run
import SearchQuery.Proofs.Value.Literal
import SearchQuery.Proofs.Modifier.Equality

namespace SearchQuery

/-! ## Specification -/

namespace Value

mutual

/-- Whether no stream is read when a value is written. -/
def streamless : Value → Bool
  | .stream _ => false
  | .group _ members => allStreamless members
  | .scalar _ | .byteArray _ | .mapping _ | .query _ => true

/-- Whether no stream is read when values are written. -/
def allStreamless : List Value → Bool
  | [] => true
  | v :: vs => v.streamless && allStreamless vs

end

/-- Whether a member of a group is kept: groups are, and what is neither absent nor blank. -/
def kept (qs : Queries) (v : Value) : Bool :=
  v.isGroup || (!v.isAbsent && !Text.isBlank (v.written qs))

mutual

/-- The clause of a value that holds no stream. -/
def render (qs : Queries) (m : Modifier) : Value → Text
  | .group _ members => renderClause m (renderAll qs m.element members)
  | .query h => renderClause m (qs.text h)
  | .stream _ => []
  | v => if v.isAbsent then [] else renderLiteral m (v.written qs)

/-- The clauses of the members that are kept, one after the other. -/
def renderAll (qs : Queries) (m : Modifier) : List Value → Text
  | [] => []
  | v :: vs => (if v.kept qs then render qs m v else []) ++ renderAll qs m vs

end

end Value

namespace ModifierArg

/-- A modifier, a truth value or nothing at all. -/
def Valid : ModifierArg → Prop
  | .given m => m.Valid
  | .other _ => False
  | .absent | .mandatory _ => True

/-- The modifier that is meant, with `standard` as the default one, for a group or a single value. -/
def meant (standard : Modifier) (group : Bool) : ModifierArg → Modifier
  | .absent | .other _ => standard
  | .mandatory on =>
    { standard with
      occurrence := if on then .required else .plain
      disjunct := if group then !on else standard.disjunct }
  | .given m => m

end ModifierArg

namespace Modifier

/-- A modifier with a fuzziness, in double precision, or with none. -/
def fuzzed (m : Modifier) (f : Option Number) : Modifier :=
  { m with fuzziness := f.map fun g => .double g.toDouble }

/-- A modifier that says whether all members have to match, if that is given. -/
def forMembers (m : Modifier) (allMembers : Option Bool) : Modifier :=
  { m with disjunct := (allMembers.map (!·)).getD m.disjunct }

end Modifier

/-- A call on the query of a scene returns and adds exactly a text. -/
def Call.Gives (c : Call) (w : Surroundings) (s : Scene) (t : Text) : Prop :=
  (c.run w s).1 = .ok () ∧ (c.run w s).2.query.text = s.query.text ++ t

/-! ## Modifiers -/

namespace Modifier

variable {m : Modifier}

theorem checked_eq (hm : m.Valid) : m.checked = .ok m := checked_eq_ok_iff.mpr ⟨hm, rfl⟩

theorem withOccurrence_eq (hm : m.Valid) (o : Occurrence) :
    m.withOccurrence o = .ok { m with occurrence := o } := by
  have h : ({ m with occurrence := o } : Modifier).Valid := hm
  exact checked_eq h

theorem withDisjunct_eq (hm : m.Valid) (on : Bool) :
    m.withDisjunct on = .ok { m with disjunct := on } := by
  have h : ({ m with disjunct := on } : Modifier).Valid := hm
  exact checked_eq h

theorem withWildcarded_eq (hm : m.Valid) (on : Bool) :
    m.withWildcarded on = .ok { m with wildcarded := on } := by
  have h : ({ m with wildcarded := on } : Modifier).Valid := hm
  exact checked_eq h

/-- A fuzziness stays one in double precision: an integer or a truth value that is one is zero. -/
theorem isFuzziness_toDouble {f : Number} (hf : isFuzziness f = true) :
    isFuzziness (.double f.toDouble) = true := by
  rcases Number.cases_of_isFuzziness hf with rfl | rfl | ⟨s, u, rfl⟩
  · decide +kernel
  · decide +kernel
  · exact hf

theorem valid_fuzzed {f : Option Number} (hf : checkFuzziness f = .ok ()) :
    (m.fuzzed f).Valid := by
  intro g hg
  cases f with
  | none => exact absurd hg (by simp [fuzzed])
  | some f =>
    obtain rfl : Number.double f.toDouble = g := by simpa [fuzzed] using hg
    cases hff : isFuzziness f with
    | true => exact isFuzziness_toDouble hff
    | false => simp [checkFuzziness, hff] at hf

theorem withFuzziness_eq {f : Option Number} (hf : checkFuzziness f = .ok ()) :
    m.withFuzziness f = .ok (m.fuzzed f) := by
  have h : (m.fuzzed f).checked = .ok (m.fuzzed f) := checked_eq (valid_fuzzed hf)
  simp only [withFuzziness, Draft.change, hf]
  exact h

end Modifier

namespace ModifierArg

variable {standard : Modifier} {m : ModifierArg}

theorem resolve_eq (hs : standard.Valid) (hm : m.Valid) (group : Bool) :
    m.resolve standard group = .ok (m.meant standard group) := by
  cases m with
  | absent => rfl
  | mandatory on =>
    have hfirst := Modifier.withOccurrence_eq hs (if on then .required else .plain)
    cases group with
    | false => simp [resolve, meant, hfirst, bind, Except.bind, pure, Except.pure]
    | true =>
      have hvalid : ({ standard with occurrence := if on then .required else .plain }
          : Modifier).Valid := hs
      have hsecond := Modifier.withDisjunct_eq hvalid (!on)
      simp [resolve, meant, hfirst, hsecond, bind, Except.bind]
  | given m => rfl
  | other kind => exact hm.elim

theorem valid_meant (hs : standard.Valid) (hm : m.Valid) (group : Bool) :
    (m.meant standard group).Valid := by
  cases m with
  | given m => exact hm
  | absent => exact hs
  | mandatory on => exact hs
  | other kind => exact hs

theorem resolveFuzzy_eq (hs : standard.Valid) (hm : m.Valid) (group : Bool) {f : Option Number}
    (hf : Modifier.checkFuzziness f = .ok ()) :
    m.resolveFuzzy standard group f = .ok ((m.meant standard group).fuzzed f) := by
  simp [resolveFuzzy, resolve_eq hs hm, Modifier.withFuzziness_eq hf]

theorem resolveField_eq (hs : standard.Valid) (hm : m.Valid) (group : Bool)
    (allMembers : Option Bool) :
    m.resolveField standard group allMembers
      = .ok ((m.meant standard group).forMembers allMembers) := by
  cases allMembers with
  | none => simp [resolveField, resolve_eq hs hm, Modifier.forMembers]
  | some all =>
    simp [resolveField, resolve_eq hs hm, Modifier.forMembers,
      Modifier.withDisjunct_eq (valid_meant hs hm group)]

end ModifierArg

/-! ## Terms -/

/-- A term stands for a value: it has the value's rendering, and is kept where the value is, behind
    every text. -/
structure Term.Means (qs : Queries) (t : Term) (v : Value) : Prop where
  render : ∀ own m, t.render own m = v.render qs m
  survives : ∀ own, t.survives own = v.kept qs

namespace Value

theorem render_of_isLiteral {v : Value} (hv : v.isLiteral = true) (qs : Queries) (m : Modifier) :
    v.render qs m = renderLiteral m (v.written qs) := by
  rw [render.eq_def]
  split
  · cases hv
  · cases hv
  · cases hv
  · rw [if_neg (by simp [isAbsent_of_isLiteral hv])]

section Terms

variable (w : Surroundings) (empty : Nat → Shelf → List Term × Shelf)

/-- **A value that is written by its text** stands for that text, if it does not show the
    receiver. -/
theorem means_literal {v : Value} (hv : v.isLiteral = true) (hr : v.mentions w.isReceiver = false)
    (s : Shelf) :
    (v.termWith w empty s).1.Means w.toQueries v ∧ (v.termWith w empty s).2 = s := by
  have hterm : v.termWith w empty s = (.literal (v.written w.toQueries), s) := by
    rw [termWith_of_isLiteral hv, if_neg (by simp [hr])]
  have hkept : v.kept w.toQueries = !Text.isBlank (v.written w.toQueries) := by
    simp [kept, isGroup_of_isLiteral hv, isAbsent_of_isLiteral hv]
  rw [hterm]
  refine ⟨⟨fun own m => ?_, fun own => ?_⟩, rfl⟩
  · rw [render_of_isLiteral hv, Term.render]
  · rw [hkept, Term.survives]

mutual

/-- **Values become terms that stand for them**, and no stream is touched. -/
theorem means_termWith : ∀ (v : Value) (s : Shelf), v.streamless = true →
    v.mentions w.isReceiver = false →
    (v.termWith w empty s).1.Means w.toQueries v ∧ (v.termWith w empty s).2 = s
  | .group shape members, s, hv, hr => by
    simp only [streamless] at hv
    simp only [mentions] at hr
    obtain ⟨hrender, hshelf⟩ := means_termsWith members s hv hr
    refine ⟨⟨fun own m => ?_, fun own => ?_⟩, by simpa [termWith] using hshelf⟩
    · simp [termWith, Term.render, Value.render, hrender]
    · simp [termWith, Term.survives, kept, isGroup]
  | .stream place, s, hv, hr => by simp [streamless] at hv
  | .query h, s, hv, hr => by
    simp only [mentions] at hr
    refine ⟨⟨fun own m => ?_, fun own => ?_⟩, by simp [termWith]⟩
    · simp [termWith, hr, Term.render, Value.render]
    · simp [termWith, hr, Term.survives, kept, isGroup, isAbsent, written]
  | .scalar c, s, hv, hr => by
    by_cases hc : c = .null
    · subst hc
      refine ⟨⟨fun own m => ?_, fun own => ?_⟩, by simp [termWith]⟩
      · simp [termWith, Term.render, Value.render, isAbsent]
      · simp [termWith, Term.survives, kept, isGroup, isAbsent]
    · exact means_literal w empty (isLiteral_scalar hc) hr s
  | .byteArray bytes, s, hv, hr => means_literal w empty rfl hr s
  | .mapping entries, s, hv, hr => means_literal w empty rfl hr s

theorem means_termsWith : ∀ (vs : List Value) (s : Shelf), allStreamless vs = true →
    anyMentions w.isReceiver vs = false →
    (∀ kept own m, Term.renderMembers kept own m (termsWith w empty vs s).1
      = renderAll w.toQueries m vs) ∧ (termsWith w empty vs s).2 = s
  | [], s, hv, hr => ⟨fun kept own m => by simp [termsWith, Term.renderMembers, renderAll],
      by simp [termsWith]⟩
  | v :: vs, s, hv, hr => by
    simp only [allStreamless, Bool.and_eq_true] at hv
    simp only [anyMentions, Bool.or_eq_false_iff] at hr
    obtain ⟨hfirst, hshelf⟩ := means_termWith v s hv.1 hr.1
    obtain ⟨hrest, hshelf'⟩ := means_termsWith vs s hv.2 hr.2
    refine ⟨fun kept own m => ?_, by simp [termsWith, hshelf, hshelf']⟩
    simp [termsWith, hshelf, Term.renderMembers, renderAll, hfirst.render, hfirst.survives, hrest]

end

theorem means_term {v : Value} (hv : v.streamless = true) (hr : v.mentions w.isReceiver = false)
    (s : Shelf) : (v.term w s).1.Means w.toQueries v :=
  (means_termWith w _ v s hv hr).1

/-- What can be read again and again is not touched when it is settled; only a set turns into a
    list, which nothing that follows can tell. -/
theorem settled_eq {v : Value} (hv : v.streamless = true) (s : Shelf) :
    v.settled s = (v, s) ∨
      ∃ members, v = .group .set members ∧ v.settled s = (.group .list members, s) := by
  unfold settled
  split
  · exact Or.inr ⟨_, rfl, rfl⟩
  · simp [streamless] at hv
  · exact Or.inl rfl

theorem means_settled {v : Value} (hv : v.streamless = true) (hr : v.mentions w.isReceiver = false)
    (s s' : Shelf) : ((v.settled s).1.term w s').1.Means w.toQueries v := by
  rcases settled_eq hv s with h | ⟨members, rfl, h⟩
  · rw [h]; exact means_term w hv hr s'
  · rw [h]
    simp only [streamless] at hv
    simp only [mentions] at hr
    have hlist : (Value.group .list members).streamless = true := by simpa [streamless] using hv
    have hmeans := means_term w hlist (by simpa [mentions] using hr) s'
    exact ⟨fun own m => by simpa [Value.render] using hmeans.render own m,
      fun own => by simpa [kept, isGroup] using hmeans.survives own⟩

theorem isBlank_settled {v : Value} (hv : v.streamless = true) (qs : Queries) (s : Shelf) :
    (v.settled s).1.isBlank qs (v.settled s).2 = v.isBlank qs s := by
  rcases settled_eq hv s with h | ⟨members, rfl, h⟩
  · rw [h]
  · rw [h]; simp [isBlank, blankWith]

end Terms

end Value

/-! ## Calls -/

namespace Call

variable {w : Surroundings} {s : Scene} {M : ModifierArg} {v : Value}

theorem gives_put (hq : s.query.buffer.Sound) {c : Call} {m : Modifier}
    (hc : c.run w s = (.ok (), s.put w v m))
    (hv : (v.term w s.shelf).1.Means w.toQueries v) :
    c.Gives w s (v.render w.toQueries m) := by
  refine ⟨by rw [hc], ?_⟩
  rw [hc, (wrote_put hq w v m).text, hv.render]

theorem gives_argument (hq : s.query.buffer.Sound) (hs : s.query.modifier.Valid) (hM : M.Valid)
    (hv : (v.term w s.shelf).1.Means w.toQueries v) :
    (Call.argument v M).Gives w s (v.render w.toQueries (M.meant s.query.modifier v.isGroup)) :=
  gives_put hq (by rw [run_argument, ModifierArg.resolve_eq hs hM]; rfl) hv

theorem gives_fuzzyArgument (hq : s.query.buffer.Sound) (hs : s.query.modifier.Valid)
    (hM : M.Valid) (hv : (v.term w s.shelf).1.Means w.toQueries v) {f : Option Number}
    (hf : Modifier.checkFuzziness f = .ok ()) :
    (Call.fuzzyArgument v M f).Gives w s
      (v.render w.toQueries ((M.meant s.query.modifier v.isGroup).fuzzed f)) :=
  gives_put hq (by rw [run_fuzzyArgument, ModifierArg.resolveFuzzy_eq hs hM _ hf]; rfl) hv

/-- A field with a name and something to search for. -/
theorem text_putField (hq : s.query.buffer.Sound) (hv : v.streamless = true)
    (hr : v.mentions w.isReceiver = false) {name : Text} (hname : Text.isBlank name = false)
    (hblank : (v.isBlank (w.when s.query.text) s.shelf).1 = false) (m : Modifier)
    (factor : Option Number) :
    ((⟨s.query, (v.settled s.shelf).2⟩ : Scene).putField w name (v.settled s.shelf).1 m
        factor).query.text
      = s.query.text ++ renderField m name (v.render w.toQueries m.nested) factor := by
  have hlooked := Value.isBlank_settled hv (w.when s.query.text) s.shelf
  have hmeans := Value.means_settled w hv hr s.shelf (v.isBlank (w.when s.query.text) s.shelf).2
  simp only [Scene.putField, hname, hlooked, hblank, Bool.false_eq_true, if_false]
  rw [(Query.wrote_writeField hq name m _ factor).text, hmeans.render]

theorem gives_field (hq : s.query.buffer.Sound) (hs : s.query.modifier.Valid) (hM : M.Valid)
    (hv : v.streamless = true) (hr : v.mentions w.isReceiver = false) {name : Text}
    (hname : Text.isBlank name = false)
    (hblank : (v.isBlank (w.when s.query.text) s.shelf).1 = false) {factor : Option Number}
    (hfactor : Boost.checkGiven factor = .ok ()) (allMembers : Option Bool) :
    let m := (M.meant s.query.modifier v.isGroup).forMembers allMembers
    (Call.field (some name) v M factor allMembers).Gives w s
      (renderField m name (v.render w.toQueries m.nested) factor) := by
  intro m
  have hrun : (Call.field (some name) v M factor allMembers).run w s = (.ok (),
      (⟨s.query, (v.settled s.shelf).2⟩ : Scene).putField w name (v.settled s.shelf).1 m factor) := by
    rw [run_field, hfactor, ModifierArg.resolveField_eq hs hM]; rfl
  refine ⟨by rw [hrun], ?_⟩
  rw [hrun]
  exact text_putField hq hv hr hname hblank m factor

theorem gives_fuzzyField (hq : s.query.buffer.Sound) (hs : s.query.modifier.Valid) (hM : M.Valid)
    (hv : v.streamless = true) (hr : v.mentions w.isReceiver = false) {name : Text}
    (hname : Text.isBlank name = false)
    (hblank : (v.isBlank (w.when s.query.text) s.shelf).1 = false) {f : Option Number}
    (hf : Modifier.checkFuzziness f = .ok ()) :
    let m := (M.meant s.query.modifier v.isGroup).fuzzed f
    (Call.fuzzyField (some name) v M f).Gives w s
      (renderField m name (v.render w.toQueries m.nested) none) := by
  intro m
  have hrun : (Call.fuzzyField (some name) v M f).run w s = (.ok (),
      (⟨s.query, (v.settled s.shelf).2⟩ : Scene).putField w name (v.settled s.shelf).1 m none) := by
    rw [run_fuzzyField, ModifierArg.resolveFuzzy_eq hs hM _ hf]
  refine ⟨by rw [hrun], ?_⟩
  rw [hrun]
  exact text_putField hq hv hr hname hblank m none

theorem gives_subquery (hq : s.query.buffer.Sound) (hs : s.query.modifier.Valid) (hM : M.Valid)
    {query : Option Handle} (hr : ∀ h, query = some h → w.isReceiver h = false) :
    (Call.subquery query M).Gives w s ((query.elim .absent .query : Value).render w.toQueries
      (M.meant s.query.modifier false)) := by
  refine gives_put hq (by rw [run_subquery, ModifierArg.resolve_eq hs hM]; rfl) ?_
  cases query with
  | none => exact Value.means_term w rfl rfl s.shelf
  | some h => exact Value.means_term w rfl (by simpa [Value.mentions] using hr h rfl) s.shelf

end Call

/-- **The writer refines the pure rendering.**  In every state that a query can be in, each call that
    takes a value or a query returns and adds exactly its rendering under the modifier that is
    meant. -/
theorem Query.Reached.gives_rendering {q : Query} (hq : q.Reached) (hs : q.modifier.Valid)
    (w : Surroundings) (shelf : Shelf) {M : ModifierArg} (hM : M.Valid) :
    (∀ v : Value, v.streamless = true → v.mentions w.isReceiver = false →
      let m := M.meant q.modifier v.isGroup
      (Call.argument v M).Gives w ⟨q, shelf⟩ (v.render w.toQueries m) ∧
      (∀ f, Modifier.checkFuzziness f = .ok () →
        (Call.fuzzyArgument v M f).Gives w ⟨q, shelf⟩ (v.render w.toQueries (m.fuzzed f))) ∧
      ∀ name, Text.isBlank name = false → (v.isBlank (w.when q.text) shelf).1 = false →
        (∀ factor allMembers, Boost.checkGiven factor = .ok () →
          let m := m.forMembers allMembers
          (Call.field (some name) v M factor allMembers).Gives w ⟨q, shelf⟩
            (renderField m name (v.render w.toQueries m.nested) factor)) ∧
        ∀ f, Modifier.checkFuzziness f = .ok () →
          (Call.fuzzyField (some name) v M f).Gives w ⟨q, shelf⟩
            (renderField (m.fuzzed f) name (v.render w.toQueries (m.fuzzed f).nested) none)) ∧
    ∀ query : Option Handle, (∀ h, query = some h → w.isReceiver h = false) →
      (Call.subquery query M).Gives w ⟨q, shelf⟩
        ((query.elim .absent .query : Value).render w.toQueries (M.meant q.modifier false)) := by
  refine ⟨fun v hv hr => ⟨?_, fun f hf => ?_, fun name hname hblank => ⟨?_, fun f hf => ?_⟩⟩,
    fun query hr => ?_⟩
  · exact Call.gives_argument hq.sound hs hM (Value.means_term w hv hr shelf)
  · exact Call.gives_fuzzyArgument hq.sound hs hM (Value.means_term w hv hr shelf) hf
  · intro factor allMembers hfactor
    exact Call.gives_field hq.sound hs hM hv hr hname hblank hfactor allMembers
  · exact Call.gives_fuzzyField hq.sound hs hM hv hr hname hblank hf
  · exact Call.gives_subquery hq.sound hs hM hr

/-- A group with blank and absent members and a query in it, written into an open field of a query
    that began with a text. -/
theorem Query.Reached.gives_rendering_group :
    let w : Surroundings := ⟨⟨fun _ => ['x', ' '], fun _ => {}⟩, (· == .query 0)⟩
    let q := (Query.new none ['a', ' ']).run [⟨w, [], .startField (some ['f']) .absent⟩]
    let M := ModifierArg.mandatory true
    let v := Value.group .tuple [.text ['b'], .absent, .text [' '], .group .list [], .query (.query 1)]
    q.Reached ∧ q.modifier.Valid ∧ M.Valid ∧ v.streamless = true ∧ v.mentions w.isReceiver = false ∧
      (Call.argument v M).Gives w ⟨q, []⟩ "+(+(b) +(x ) ) ".toList ∧
      (Call.subquery (some (.query 1)) M).Gives w ⟨q, []⟩ "+(x ) ".toList := by
  intro w q M v
  have hq : q.Reached := ⟨none, ['a', ' '], _, rfl⟩
  have hs : q.modifier.Valid := by decide +kernel
  have hv : v.streamless = true := by decide +kernel
  have hr : v.mentions w.isReceiver = false := by decide +kernel
  have h := hq.gives_rendering hs w [] (M := M) trivial
  have hargument : v.render w.toQueries (M.meant q.modifier v.isGroup)
      = "+(+(b) +(x ) ) ".toList := by decide +kernel
  have hsubquery : (Value.query (.query 1)).render w.toQueries (M.meant q.modifier false)
      = "+(x ) ".toList := by decide +kernel
  refine ⟨hq, hs, trivial, hv, hr, ?_, ?_⟩
  · rw [← hargument]
    exact (h.1 v hv hr).1
  · rw [← hsubquery]
    exact h.2 (some (.query 1)) (fun g hg => by cases hg; rfl)

end SearchQuery

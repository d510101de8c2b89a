/-
  Equal modifiers in the place of each other.

  A caller gives a modifier with a call, or sets it as the default one.  If an equal one is given or set
  instead, the call ends in the same way; only the literals that it writes show which one it was.

  1. **Derived modifiers** — what is found for a call, and what drafts make of copies, is equal again.
  2. **Queries (`Query.Resembles`)** — two queries that differ in nothing but the form of a zero in their
     default modifiers; every writer keeps them together or parts their texts.
  3. **Calls (`Scene.Paired.run`)** — one case for each call, with the modifier that is found in the two
     scenes as the only thing that may differ.
-/
import SearchQuery.Proofs.Modifier.Setting
import SearchQuery.Proofs.Query.Parting

namespace SearchQuery

/-! ## Derived modifiers -/

/-- A modifier is made of fields that are right. -/
theorem Modifier.ofFields?_eq {o : Occurrence} {split disjunct wildcarded : Bool}
    {f : Option Number} (h : Modifier.Valid ⟨o, split, disjunct, wildcarded, f⟩) :
    ofFields? (.given o) split disjunct wildcarded f = .ok ⟨o, split, disjunct, wildcarded, f⟩ :=
  checked_eq h

/-- Copies of equal modifiers that are changed alike make equal modifiers. -/
theorem Draft.equal_build {m n : Modifier} (hm : m.Valid) (hn : n.Valid) (h : m.Twins n)
    {calls : List Calling} (hcalls : ¬ RoundedUp calls) :
    ∃ m' n', ((ofModifier m).setAll calls).build = .ok m' ∧
      ((ofModifier n).setAll calls).build = .ok n' ∧ m'.equal n' = true := by
  have hstart : (ofModifier m).Sound := hm
  have hstart' : (ofModifier n).Sound := hn
  have hsound := (hstart.setAll calls).resolve_right fun h => hcalls h.2
  have hsound' := (hstart'.setAll calls).resolve_right fun h => hcalls h.2
  have hkept : ∀ {α : Type} (k : Field α), k.read (ofModifier m) = k.read (ofModifier n) →
      k.read ((ofModifier m).setAll calls) = k.read ((ofModifier n).setAll calls) := by
    intro α k hk
    rw [k.read_setAll, k.read_setAll, hk]
  refine ⟨_, _, hsound.build, hsound'.build, ?_⟩
  rw [Modifier.equal_iff (fun f hf => hsound f hf) fun f hf => hsound' f hf]
  refine ⟨hkept .occurrence h.occurrence, hkept .split h.split, hkept .disjunct h.disjunct,
    hkept .wildcarded h.wildcarded, ?_⟩
  -- a fuzziness that is set is the same in both, one that is kept is a twin of the other
  have hread := Field.fuzziness.read_setAll (ofModifier m) calls
  have hread' := Field.fuzziness.read_setAll (ofModifier n) calls
  show Field.fuzziness.read ((ofModifier m).setAll calls)
      = Field.fuzziness.read ((ofModifier n).setAll calls) ∨
    ∃ f g, Field.fuzziness.read ((ofModifier m).setAll calls) = some f ∧
      Field.fuzziness.read ((ofModifier n).setAll calls) = some g ∧ f.isZero ∧ g.isZero
  rw [hread, hread']
  cases Field.fuzziness.last? calls with
  | none => exact h.fuzziness
  | some f => exact .inl rfl

/-- A fuzzy call replaces the fuzziness, and with it all that equal modifiers differ in. -/
theorem Modifier.withFuzziness_congr {m n : Modifier} (h : m.Twins n) (f : Option Number) :
    m.withFuzziness f = n.withFuzziness f := by
  simp only [withFuzziness, Draft.change, Draft.ofModifier]
  cases checkFuzziness f with
  | error e => rfl
  | ok => simp only [Draft.build, h.occurrence, h.split, h.disjunct, h.wildcarded]

theorem Modifier.Twins.forMembers {m n : Modifier} (h : m.Twins n) (allMembers : Option Bool) :
    (m.forMembers allMembers).Twins (n.forMembers allMembers) :=
  ⟨h.occurrence, h.split, by simp only [Modifier.forMembers, h.disjunct], h.wildcarded, h.fuzziness⟩

namespace ModifierArg

variable {d d' : Modifier} {a b : ModifierArg}

/-- Whether a caller gives equal modifiers, or otherwise the same. -/
def equal : ModifierArg → ModifierArg → Bool
  | .given m, .given n => m.equal n
  | a, b => a == b

/-- The fuzziness that is meant, with `standard` as the default modifier. -/
def fuzziness (standard : Modifier) : ModifierArg → Option Number
  | .given m => m.fuzziness
  | _ => standard.fuzziness

theorem fuzziness_meant (d : Modifier) (group : Bool) (a : ModifierArg) :
    (a.meant d group).fuzziness = a.fuzziness d := by
  cases a <;> rfl

theorem differ_meant (d d' : Modifier) (group : Bool) (a b : ModifierArg) :
    (a.meant d group).differ (b.meant d' group) = decide (a.fuzziness d ≠ b.fuzziness d') := by
  rw [Modifier.differ, fuzziness_meant, fuzziness_meant]

theorem twins_meant (hd : d.Twins d') (ha : a.Valid) (hb : b.Valid) (hab : a.equal b = true)
    (group : Bool) : (a.meant d group).Twins (b.meant d' group) := by
  cases a with
  | given m =>
    cases b with
    | given n => exact (Modifier.equal_iff ha hb).mp hab
    | _ => exact absurd hab (by simp [equal])
  | absent =>
    cases b with
    | absent => exact hd
    | _ => exact absurd hab (by simp [equal])
  | mandatory on =>
    cases b with
    | mandatory on' =>
      obtain rfl : on = on' := by simpa [equal] using hab
      exact ⟨rfl, hd.split, by simp only [meant, hd.disjunct], hd.wildcarded, hd.fuzziness⟩
    | _ => exact absurd hab (by simp [equal])
  | other kind => exact ha.elim

end ModifierArg

/-- Two queries that differ in nothing but the form of a zero in their default modifiers, except that
    their texts are parted if `apart` says so. -/
structure Query.Resembles (apart : Bool) (q q' : Query) : Prop where
  text : Text.PartedIf apart q.text q'.text
  succeeded : q'.succeeded = q.succeeded
  openFields : q'.openFields = q.openFields
  modifier : q.modifier.Twins q'.modifier
  sound : q.buffer.Sound
  sound' : q'.buffer.Sound

/-- The same of the queries of two scenes, with the same streams on the shelf. -/
structure Scene.Resembles (apart : Bool) (s s' : Scene) : Prop where
  query : s.query.Resembles apart s'.query
  shelf : s'.shelf = s.shelf

/-- Two calls end in the same way and in scenes that resemble each other. -/
structure Scene.Interchanged (apart : Bool) (r r' : Except QueryError Unit × Scene) : Prop where
  outcome : r'.1 = r.1
  scene : r.2.Resembles apart r'.2

namespace Query

variable {apart : Bool} {q q' r r' : Query} {t t' : Text}

theorem Resembles.grew (h : q.Resembles false q') (hr : q.Grew t r) (hr' : q'.Grew t' r')
    (ht : Text.PartedIf apart t t') (hframe : q.SameFrame r) (hframe' : q'.SameFrame r')
    (hsucceeded : r'.succeeded = r.succeeded) : r.Resembles apart r' where
  text := by
    have hsame : q.text = q'.text := h.text
    rw [hr.text, hr'.text, ← hsame]
    exact ht.behind q.text
  succeeded := hsucceeded
  openFields := by rw [hframe'.openFields, hframe.openFields, h.openFields]
  modifier := by rw [hframe'.modifier, hframe.modifier]; exact h.modifier
  sound := hr.sound
  sound' := hr'.sound

theorem Resembles.wrote (h : q.Resembles false q') (hr : q.Wrote t r) (hr' : q'.Wrote t' r')
    (ht : Text.PartedIf apart t t') (hframe : q.SameFrame r) (hframe' : q'.SameFrame r') :
    r.Resembles apart r' :=
  h.grew hr.toGrew hr'.toGrew ht hframe hframe' (by rw [hr'.succeeded, hr.succeeded, ht.isEmpty])

theorem Resembles.skipped (h : q.Resembles false q') : q.skipped.Resembles false q'.skipped :=
  h.wrote (wrote_skipped h.sound) (wrote_skipped h.sound') (.of_eq rfl) ⟨rfl, rfl⟩ ⟨rfl, rfl⟩

variable {m n : Modifier}

theorem Resembles.write (h : q.Resembles false q') {t : Term} (ht : t.Legible) (hmn : m.Twins n) :
    (q.write m t).Resembles (t.worded && m.differ n) (q'.write n t) := by
  have hsame : q.text = q'.text := h.text
  have hwrote' := wrote_write t q' n h.sound'
  rw [← hsame] at hwrote'
  exact h.wrote (wrote_write t q m h.sound) hwrote' (t.partedIf_render q.text m n ht hmn)
    (sameFrame_write t q m) (sameFrame_write t q' n)

theorem Resembles.writeField (h : q.Resembles false q') {t : Term} (ht : t.Legible)
    (hmn : m.Twins n) (name : Text) (factor : Option Number) :
    (q.writeField name m t factor).Resembles (t.worded && m.differ n)
      (q'.writeField name n t factor) := by
  have hsame : q.text = q'.text := h.text
  have hopening : renderOpening n name = renderOpening m name := by
    rw [renderOpening, renderOpening, hmn.mark]
  have hwrote' := wrote_writeField h.sound' name n t factor
  rw [← hsame, hopening] at hwrote'
  exact h.wrote (wrote_writeField h.sound name m t factor) hwrote'
    (partedIf_renderField hmn (t.partedIf_render _ m.nested n.nested ht hmn.nested) name factor)
    (sameFrame_writeField q name m t factor) (sameFrame_writeField q' name n t factor)

theorem Resembles.writeRange (h : q.Resembles false q') (hmn : m.Twins n) (field : Option Text)
    (start stop : Bound) :
    (q.writeRange field start stop m).Resembles false (q'.writeRange field start stop n) := by
  have hsame : q.text = q'.text := h.text
  have hwrote' := wrote_writeRange h.sound' field start stop n
  rw [← hsame, ← renderRange_congr hmn] at hwrote'
  exact h.wrote (wrote_writeRange h.sound field start stop m) hwrote' (.of_eq rfl) ⟨rfl, rfl⟩
    ⟨rfl, rfl⟩

theorem Resembles.startField (h : q.Resembles false q') (hmn : m.Twins n) (name : Option Text) :
    (q.startField name m).Resembles false (q'.startField name n) := by
  cases name with
  | none => exact h.skipped
  | some name =>
    by_cases hname : Text.isBlank name = true
    · simpa [Query.startField, hname] using h.skipped
    · have hsame : q.text = q'.text := h.text
      have hopened := wrote_openField h.sound name m
      have hopened' := wrote_openField h.sound' name n
      have hopening : renderOpening m name = renderOpening n name := by
        rw [renderOpening, renderOpening, hmn.mark]
      have hboth : (q.openField name m).Resembles false (q'.openField name n) := by
        refine ⟨?_, rfl, ?_, h.modifier, hopened.sound, hopened'.sound⟩
        · exact .of_eq (by rw [hopened.text, hopened'.text, hsame, hopening])
        · show name :: q'.openFields = name :: q.openFields
          rw [h.openFields]
      simpa [Query.startField, hname] using hboth

theorem Resembles.closeField (h : q.Resembles false q') (fields : List Text) :
    (q.closeField fields).Resembles false (q'.closeField fields) := by
  have hsame : q.text = q'.text := h.text
  have hclosed := wrote_closeField h.sound fields
  have hclosed' := wrote_closeField h.sound' fields
  refine ⟨?_, ?_, ?_, ?_, hclosed.sound, hclosed'.sound⟩
  · exact .of_eq (by rw [hclosed.text, hclosed'.text, hsame])
  · rw [hclosed'.succeeded, hclosed.succeeded, hsame]
  · rw [openFields_closeField, openFields_closeField]
  · rw [modifier_closeField, modifier_closeField]
    exact h.modifier

theorem Resembles.writeBoost (h : q.Resembles false q') (f : Number) :
    (q.writeBoost f).Resembles false (q'.writeBoost f) := by
  have hgrew' := grew_writeBoost h.sound' f
  rw [h.succeeded] at hgrew'
  refine h.grew (grew_writeBoost h.sound f) hgrew' (.of_eq rfl) (sameFrame_writeBoost q f)
    (sameFrame_writeBoost q' f) ?_
  rw [succeeded_writeBoost, succeeded_writeBoost, h.succeeded]

theorem Resembles.writeUnescaped (h : q.Resembles false q') (field text : Option Text)
    (mandatory : Bool) :
    (q.writeUnescaped field text mandatory).Resembles false
      (q'.writeUnescaped field text mandatory) :=
  h.wrote (wrote_writeUnescaped h.sound field text mandatory)
    (wrote_writeUnescaped h.sound' field text mandatory) (.of_eq rfl)
    (sameFrame_writeUnescaped q field text mandatory)
    (sameFrame_writeUnescaped q' field text mandatory)

theorem Resembles.setModifier (h : q.Resembles false q') (hmn : m.Twins n) :
    Resembles false { q with modifier := m } { q' with modifier := n } :=
  ⟨h.text, h.succeeded, h.openFields, hmn, h.sound, h.sound'⟩

end Query

namespace Scene

variable {apart : Bool} {s s' : Scene} {m n : Modifier}

/-- Whether a literal is written for a field. -/
def wordsField (s : Scene) (w : Surroundings) (name : Option Text) (v : Value) : Bool :=
  let looked := v.isBlank (w.when s.query.text) s.shelf
  !Text.isMissing name && !looked.1 && (v.term w looked.2).1.worded

theorem Resembles.put (h : s.Resembles false s') (w : Surroundings) (v : Value) (hmn : m.Twins n) :
    (s.put w v m).Resembles ((v.term w s.shelf).1.worded && m.differ n) (s'.put w v n) := by
  refine ⟨?_, ?_⟩
  · show (s.query.write m (v.term w s.shelf).1).Resembles _ (s'.query.write n (v.term w s'.shelf).1)
    rw [h.shelf]
    exact h.query.write (Value.legible_term w v s.shelf) hmn
  · show (v.term w s'.shelf).2 = (v.term w s.shelf).2
    rw [h.shelf]

theorem Resembles.putField (h : s.Resembles false s') (w : Surroundings) (name : Option Text)
    (v : Value) (hmn : m.Twins n) (factor : Option Number) :
    (s.putField w name v m factor).Resembles (s.wordsField w name v && m.differ n)
      (s'.putField w name v n factor) := by
  have htext : s'.query.text = s.query.text := h.query.text.symm
  cases name with
  | none => exact ⟨h.query.skipped, h.shelf⟩
  | some name =>
    cases hname : Text.isBlank name with
    | true =>
      simp only [Scene.putField, wordsField, Text.isMissing, hname, if_true]
      exact ⟨h.query.skipped, h.shelf⟩
    | false =>
      cases hblank : (v.isBlank (w.when s.query.text) s.shelf).1 with
      | true =>
        simp only [Scene.putField, wordsField, hname, htext, h.shelf, hblank, if_true,
          Bool.not_true, Bool.and_false, Bool.false_and]
        exact ⟨h.query.skipped, rfl⟩
      | false =>
        simp only [Scene.putField, wordsField, Text.isMissing, hname, htext, h.shelf, hblank,
          Bool.false_eq_true, if_false, Bool.not_false, Bool.true_and]
        exact ⟨h.query.writeField (Value.legible_term w v _) hmn name factor, rfl⟩

/-- Calls that look for the same modifier. -/
theorem Resembles.on (h : s.Resembles false s') (r : Except QueryError Modifier)
    {k k' : Modifier → Scene} (hk : ∀ m, (k m).Resembles false (k' m)) :
    Interchanged false (s.on r k) (s'.on r k') := by
  cases r with
  | error e => exact ⟨rfl, h⟩
  | ok m => exact ⟨rfl, hk m⟩

/-- Calls that change nothing but the query. -/
theorem Resembles.returns (h : s.Resembles false s') {f f' : Query → Query}
    (hf : (f s.query).Resembles false (f' s'.query)) :
    Interchanged false (.ok (), s.change f) (.ok (), s'.change f') :=
  ⟨rfl, hf, h.shelf⟩

end Scene

namespace Call

/-- A call with another modifier in the place of the one that it is given, if it takes any. -/
def withModifier (a : ModifierArg) : Call → Call
  | .argument v _ => .argument v a
  | .fuzzyArgument v _ f => .fuzzyArgument v a f
  | .field name v _ factor allMembers => .field name v a factor allMembers
  | .fuzzyField name v _ f => .fuzzyField name v a f
  | .range start stop _ => .range start stop a
  | .rangeField name start stop _ => .rangeField name start stop a
  | .subquery query _ => .subquery query a
  | .startField name _ => .startField name a
  | .endField => .endField
  | .boost f => .boost f
  | .unescaped t mandatory => .unescaped t mandatory
  | .unescapedField name t mandatory => .unescapedField name t mandatory
  | .setModifier m => .setModifier m
  | .setWildcarded on => .setWildcarded on

/-- Whether a call writes a literal under the modifier that it is given: a value or a field does, if it
    is not refused; a fuzzy one is given a fuzziness of its own. -/
def worded (w : Surroundings) (s : Scene) : Call → Bool
  | .argument v _ => (v.term w s.shelf).1.worded
  | .field name v _ factor _ =>
    factor.all Boost.isFactor &&
      (⟨s.query, (v.settled s.shelf).2⟩ : Scene).wordsField w name (v.settled s.shelf).1
  | _ => false

theorem worded_subquery (w : Surroundings) (shelf : Shelf) (query : Option Handle) :
    ((query.elim Value.absent Value.query).term w shelf).1.worded = false := by
  cases query with
  | none => simp [Value.term, Value.absent, Value.termWith, Term.worded]
  | some g => cases hg : w.isReceiver g <;> simp [Value.term, Value.termWith, hg, Term.worded]

end Call

/-! ## Two scenes and two modifiers -/

namespace Scene

/-- Two scenes that resemble each other, and equal modifiers that are given there. -/
structure Paired (a b : ModifierArg) (s s' : Scene) : Prop where
  scenes : s.Resembles false s'
  standard : s.query.modifier.Valid
  standard' : s'.query.modifier.Valid
  given : a.Valid
  given' : b.Valid
  equal : a.equal b = true

namespace Paired

variable {apart : Bool} {a b : ModifierArg} {s s' : Scene} (p : Paired a b s s')

include p

theorem twins (group : Bool) :
    (a.meant s.query.modifier group).Twins (b.meant s'.query.modifier group) :=
  ModifierArg.twins_meant p.scenes.query.modifier p.given p.given' p.equal group

/-- Calls that look for the modifier that they are given. -/
theorem on (group : Bool) {k k' : Modifier → Scene}
    (hk : (k (a.meant s.query.modifier group)).Resembles apart
      (k' (b.meant s'.query.modifier group))) :
    Interchanged apart (s.on (a.resolve s.query.modifier group) k)
      (s'.on (b.resolve s'.query.modifier group) k') := by
  rw [ModifierArg.resolve_eq p.standard p.given, ModifierArg.resolve_eq p.standard' p.given']
  exact ⟨rfl, hk⟩

/-- Calls that look for a modifier with a fuzziness of its own. -/
theorem resolveFuzzy (group : Bool) (f : Option Number) :
    a.resolveFuzzy s.query.modifier group f = b.resolveFuzzy s'.query.modifier group f := by
  rw [ModifierArg.resolveFuzzy, ModifierArg.resolveFuzzy,
    ModifierArg.resolve_eq p.standard p.given, ModifierArg.resolve_eq p.standard' p.given']
  exact Modifier.withFuzziness_congr (p.twins group) f

/-- The outermost group of a value is read in both scenes. -/
theorem settled (v : Value) :
    Scene.Resembles false ⟨s.query, (v.settled s.shelf).2⟩ ⟨s'.query, (v.settled s.shelf).2⟩ :=
  ⟨p.scenes.query, rfl⟩

variable (w : Surroundings)

theorem field (name : Option Text) (v : Value) (factor : Option Number) (allMembers : Option Bool) :
    Interchanged ((Call.field name v a factor allMembers).worded w s &&
        decide (a.fuzziness s.query.modifier ≠ b.fuzziness s'.query.modifier))
      ((Call.field name v a factor allMembers).run w s)
      ((Call.field name v b factor allMembers).run w s') := by
  rw [run_field, run_field, p.scenes.shelf, Call.worded]
  cases hfactor : Boost.checkGiven factor with
  | error e =>
    have hrefused : factor.all Boost.isFactor = false := by
      rw [← Bool.not_eq_true, ← Boost.checkGiven_eq_ok_iff, hfactor]
      exact nofun
    rw [hrefused]
    exact ⟨rfl, p.scenes⟩
  | ok =>
    dsimp only
    rw [Boost.checkGiven_eq_ok_iff.mp hfactor, Bool.true_and,
      ModifierArg.resolveField_eq p.standard p.given,
      ModifierArg.resolveField_eq p.standard' p.given',
      ← ModifierArg.differ_meant _ _ v.isGroup]
    exact ⟨rfl, (p.settled v).putField w name (v.settled s.shelf).1
      ((p.twins v.isGroup).forMembers allMembers) factor⟩

theorem fuzzyField (name : Option Text) (v : Value) (f : Option Number) :
    Interchanged false ((Call.fuzzyField name v a f).run w s)
      ((Call.fuzzyField name v b f).run w s') := by
  rw [run_fuzzyField, run_fuzzyField, p.scenes.shelf, p.resolveFuzzy]
  cases b.resolveFuzzy s'.query.modifier v.isGroup f with
  | error e => exact ⟨rfl, p.scenes⟩
  | ok m =>
    have hput := (p.settled v).putField w name (v.settled s.shelf).1 (.refl m) none
    rw [Modifier.differ_self, Bool.and_false] at hput
    exact ⟨rfl, hput⟩

theorem range (start stop : Value) :
    Interchanged false ((Call.range start stop a).run w s) ((Call.range start stop b).run w s') := by
  have htext : s'.query.text = s.query.text := p.scenes.query.text.symm
  rw [run_range, run_range, htext]
  rcases Bound.check s.query.text (start.bound w) (stop.bound w) with e | _ | ⟨x, y⟩
  · exact ⟨rfl, p.scenes⟩
  · exact p.scenes.returns p.scenes.query.skipped
  · exact p.on false ⟨p.scenes.query.writeRange (p.twins false) none x y, p.scenes.shelf⟩

theorem rangeField (name : Option Text) (start stop : Value) :
    Interchanged false ((Call.rangeField name start stop a).run w s)
      ((Call.rangeField name start stop b).run w s') := by
  have htext : s'.query.text = s.query.text := p.scenes.query.text.symm
  rw [run_rangeField, run_rangeField, htext]
  rcases Bound.check s.query.text (start.bound w) (stop.bound w) with e | _ | ⟨x, y⟩
  · exact ⟨rfl, p.scenes⟩
  · exact p.scenes.returns p.scenes.query.skipped
  · dsimp only
    split
    · exact p.scenes.returns p.scenes.query.skipped
    · exact p.on false ⟨p.scenes.query.writeRange (p.twins false) name x y, p.scenes.shelf⟩

theorem setWildcarded (on : Bool) :
    Interchanged false ((Call.setWildcarded on).run w s) ((Call.setWildcarded on).run w s') := by
  have htwins := p.scenes.query.modifier
  rw [run_setWildcarded, run_setWildcarded, Modifier.withWildcarded_eq p.standard,
    Modifier.withWildcarded_eq p.standard']
  exact p.scenes.returns (p.scenes.query.setModifier
    ⟨htwins.occurrence, htwins.split, htwins.disjunct, rfl, htwins.fuzziness⟩)

/-- **One call** on two queries that resemble each other, with equal modifiers. -/
theorem run (c : Call) :
    Interchanged (c.worded w s &&
        decide (a.fuzziness s.query.modifier ≠ b.fuzziness s'.query.modifier))
      ((c.withModifier a).run w s) ((c.withModifier b).run w s') := by
  have h := p.scenes
  cases c with
  | argument v _ =>
    rw [Call.withModifier, Call.withModifier, run_argument, run_argument,
      ← ModifierArg.differ_meant _ _ v.isGroup]
    exact p.on _ (h.put w v (p.twins _))
  | fuzzyArgument v _ f =>
    rw [Call.withModifier, Call.withModifier, run_fuzzyArgument, run_fuzzyArgument, p.resolveFuzzy]
    refine h.on _ fun m => ?_
    have hput := h.put w v (.refl m)
    rwa [Modifier.differ_self, Bool.and_false] at hput
  | field name v _ factor allMembers => exact p.field w name v factor allMembers
  | fuzzyField name v _ f => exact p.fuzzyField w name v f
  | range start stop _ => exact p.range w start stop
  | rangeField name start stop _ => exact p.rangeField w name start stop
  | subquery query _ =>
    have hput := h.put w (query.elim .absent .query) (p.twins false)
    rw [Call.worded_subquery, Bool.false_and] at hput
    rw [Call.withModifier, Call.withModifier, run_subquery, run_subquery]
    exact p.on _ hput
  | startField name _ =>
    rw [Call.withModifier, Call.withModifier, run_startField, run_startField]
    exact p.on _ ⟨h.query.startField (p.twins false) name, h.shelf⟩
  | endField =>
    rw [Call.withModifier, Call.withModifier, run_endField, run_endField, h.query.openFields]
    cases s.query.openFields with
    | nil => exact ⟨rfl, h⟩
    | cons field fields => exact h.returns (h.query.closeField fields)
  | boost f =>
    rw [Call.withModifier, Call.withModifier, run_boost, run_boost]
    cases Boost.check f with
    | error e => exact ⟨rfl, h⟩
    | ok => exact h.returns (h.query.writeBoost f)
  | unescaped t mandatory =>
    rw [Call.withModifier, Call.withModifier, run_unescaped, run_unescaped]
    exact h.returns (h.query.writeUnescaped none t mandatory)
  | unescapedField name t mandatory =>
    rw [Call.withModifier, Call.withModifier, run_unescapedField, run_unescapedField]
    split
    · exact h.returns h.query.skipped
    · exact h.returns (h.query.writeUnescaped name t mandatory)
  | setModifier m =>
    rw [Call.withModifier, Call.withModifier, run_setModifier, run_setModifier]
    cases m with
    | none => exact ⟨rfl, h⟩
    | some m => exact h.returns (h.query.setModifier (.refl m))
  | setWildcarded on => exact p.setWildcarded w on

end Paired
end Scene

/-! ## The result -/

namespace Query

/-- Equal modifiers are interchangeable but for the form of a zero.  Two calls that are given equal
    modifiers, or find equal default ones, with the same around them, end in the same way in every
    state.  What they leave behind is the same up to that form, and so is the text, unless a literal is
    written and the fuzzinesses that are meant differ in their form, as only zeros do.  What is derived
    from equal modifiers is equal, and where none can be made of one copy, none can of the other. -/
theorem Reached.interchanges {q : Query} (hq : q.Reached) (hs : q.modifier.Valid) {d : Modifier}
    (hd : d.Valid) (hqd : q.modifier.equal d = true) {a b : ModifierArg} (ha : a.Valid)
    (hb : b.Valid) (hab : a.equal b = true) :
    (a.fuzziness q.modifier = b.fuzziness d ∨
      ∃ f g, a.fuzziness q.modifier = some f ∧ b.fuzziness d = some g ∧ f.isZero ∧ g.isZero) ∧
    (∀ calls, (¬ Draft.RoundedUp calls →
        ∃ m n, ((Draft.ofModifier q.modifier).setAll calls).build = .ok m ∧
          ((Draft.ofModifier d).setAll calls).build = .ok n ∧ m.equal n = true) ∧
      (Draft.RoundedUp calls → ((Draft.ofModifier q.modifier).setAll calls).build
        = ((Draft.ofModifier d).setAll calls).build)) ∧
    ∀ (w : Surroundings) (shelf : Shelf) (c : Call),
      let r := (c.withModifier a).run w ⟨q, shelf⟩
      let r' := (c.withModifier b).run w ⟨{ q with modifier := d }, shelf⟩
      r'.1 = r.1 ∧ r'.2.shelf = r.2.shelf ∧ r'.2.query.succeeded = r.2.query.succeeded ∧
        r'.2.query.openFields = r.2.query.openFields ∧
        r.2.query.modifier.Twins r'.2.query.modifier ∧
        (r'.2.query.text = r.2.query.text ↔
          c.worded w ⟨q, shelf⟩ = false ∨ a.fuzziness q.modifier = b.fuzziness d) := by
  have htwins : q.modifier.Twins d := (Modifier.equal_iff hs hd).mp hqd
  have hdrafts (calls : List Draft.Calling) (h : Draft.RoundedUp calls) :
      ((Draft.ofModifier q.modifier).setAll calls).build
        = ((Draft.ofModifier d).setAll calls).build := by
    rw [Draft.build_of_one (h.fuzziness_eq _), Draft.build_of_one (h.fuzziness_eq _)]
  refine ⟨?_, fun calls => ⟨Draft.equal_build hs hd htwins, hdrafts calls⟩, fun w shelf c => ?_⟩
  · have hmeant := (ModifierArg.twins_meant htwins ha hb hab false).fuzziness
    rwa [ModifierArg.fuzziness_meant, ModifierArg.fuzziness_meant] at hmeant
  · intro r r'
    have hscene : Scene.Resembles false ⟨q, shelf⟩ ⟨{ q with modifier := d }, shelf⟩ :=
      ⟨⟨.of_eq rfl, rfl, rfl, htwins, hq.sound, hq.sound⟩, rfl⟩
    have hrun := Scene.Paired.run ⟨hscene, hs, hd, ha, hb, hab⟩ w c
    have hleft := hrun.scene.query
    refine ⟨hrun.outcome, hrun.scene.shelf, hleft.succeeded, hleft.openFields, hleft.modifier, ?_⟩
    rw [eq_comm, hleft.text.eq_iff, Bool.and_eq_false_iff, decide_eq_false_iff_not,
      Decidable.not_not]

/-- The integer zero and the zero of double precision, as the fuzziness of a range and of a group. -/
theorem interchanges_zeros :
    let w : Surroundings := ⟨⟨fun _ => [], fun _ => {}⟩, (· == .query 0)⟩
    let s : Scene := ⟨new none [], []⟩
    let a : ModifierArg := .given { fuzziness := some (.int 0) }
    let b : ModifierArg := .given { fuzziness := some (.double (.finite false 0)) }
    let range : Call := .range (.text ['a']) (.text ['b']) .absent
    let group : Call := .argument (.group .list [.text ['a'], .query (.query 0)]) .absent
    ((range.withModifier b).run w s).2.query.text = ((range.withModifier a).run w s).2.query.text ∧
      ((group.withModifier b).run w s).2.query.text ≠
        ((group.withModifier a).run w s).2.query.text := by
  intro w s a b range group
  have hq : (new none []).Reached := ⟨none, [], [], rfl⟩
  have ha : a.Valid := show Modifier.Valid _ by decide +kernel
  have hb : b.Valid := show Modifier.Valid _ by decide +kernel
  obtain ⟨-, -, hcall⟩ := hq.interchanges (d := {}) (by decide +kernel) (by decide +kernel)
    (by decide +kernel) ha hb (by decide +kernel)
  refine ⟨(hcall w [] range).2.2.2.2.2.mpr (.inl rfl), fun h => ?_⟩
  rcases (hcall w [] group).2.2.2.2.2.mp h with hworded | hform
  · exact absurd hworded (by decide +kernel)
  · exact absurd hform (by decide +kernel)

/-- Zero as the fuzziness of a modifier that is made of its fields, and of a draft: two equal modifiers,
    and two texts. -/
theorem equal_modifiers_written_apart :
    let w : Surroundings := ⟨⟨fun _ => [], fun _ => {}⟩, (· == .query 0)⟩
    let m : Modifier := { fuzziness := some (.int 0) }
    let n : Modifier := { fuzziness := some (.double (.finite false 0)) }
    m.Valid ∧ n.Valid ∧ m.equal n = true ∧
      Modifier.ofFields? (.given .plain) false false false (some (.int 0)) = .ok m ∧
      Modifier.withFuzziness {} (some (.int 0)) = .ok n ∧
      ((Call.argument (.text ['x']) (.given m)).run w ⟨{}, []⟩).2.query.text = "(x~0) ".toList ∧
      ((Call.argument (.text ['x']) (.given n)).run w ⟨{}, []⟩).2.query.text
        = "(x~0.0) ".toList := by
  intro w m n
  have hm : m.Valid := by decide +kernel
  have hn : n.Valid := by decide +kernel
  have hdraft : Modifier.withFuzziness {} (some (.int 0)) = .ok n := by
    have hzero : (Number.int 0).toDouble = .finite false 0 := by decide +kernel
    have hcheck : Modifier.checkFuzziness (some (.int 0)) = .ok () := by
      rw [Modifier.checkFuzziness, if_pos (by decide +kernel)]
    rw [Modifier.withFuzziness_eq hcheck, Modifier.fuzzed]
    simp only [Option.map_some, hzero, n]
  exact ⟨hm, hn, by decide +kernel, Modifier.ofFields?_eq hm, hdraft, by decide +kernel,
    by decide +kernel⟩

end Query
end SearchQuery

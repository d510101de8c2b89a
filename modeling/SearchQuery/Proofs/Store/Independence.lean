/-
  The objects of a session are independent.

  A call names one object.  It may read any other query, but what it changes is the query at the end
  of that object's chain: nothing is shared between two queries, and what is built from a template
  is a query of its own from then on.

  1. **Books (`Store.Sound`)** — the buffers of all queries are in order, so whatever a call does to
     a text is to add something behind it.
  2. **One action** — a query that the action does not reach stays as it is, a template that it does
     not lock does, too, and a query that it reaches keeps what it shows as the beginning.
  3. **Runs (`Reached.independent`)** — by induction on the actions.  What a text has become is what
     it was, and behind it `Session.added`: what was added by the actions that reach the query.
-/
import SearchQuery.Proofs.Query.Run
import SearchQuery.Proofs.Store.Lock

namespace SearchQuery

/-! ## Books -/

/-- Steps that only add to the query of a scene. -/
def Calling.Grows (c : Calling Unit) : Prop :=
  ∀ s : Scene, s.query.buffer.Sound → ∃ t, s.query.Grew t (c.outcome s).2.query

theorem Call.grows (c : Call) (w : Surroundings) : (c.perform w).Grows :=
  fun s hs => Call.exists_grew_run w c s hs

theorem Clause.grows (c : Clause) (w : Surroundings) (m : Option Modifier) :
    (c.perform w m).Grows := by
  intro s hs
  cases m with
  | none => exact ⟨[], (Query.wrote_skipped hs).toGrew⟩
  | some m =>
    cases c with
    | value v => exact ⟨_, (Call.wrote_put hs w v m).toGrew⟩
    | range name start stop =>
      exact ⟨_, (Query.wrote_writeRange hs name (start.asBound w) (stop.asBound w) m).toGrew⟩

namespace Store

variable {s : Store} {g h : Handle}

/-- The books of all queries are right. -/
def Sound (s : Store) : Prop := ∀ q ∈ s.queries, q.buffer.Sound

theorem Sound.query (hs : s.Sound) (h : Handle) : (s.query h).buffer.Sound := by
  unfold Store.query
  by_cases hlt : h.terminal < s.queries.length
  · have hread : s.queries.getD h.terminal {} = s.queries[h.terminal] := by
      simp [List.getElem?_eq_getElem hlt]
    rw [hread]
    exact hs _ (List.getElem_mem hlt)
  · -- A slot that does not exist is read as a new query.
    have hread : s.queries.getD h.terminal {} = {} := by
      simp [List.getElem?_eq_none (Nat.le_of_not_lt hlt)]
    rw [hread]
    exact Buffer.sound_ofText []

theorem Sound.addQuery (hs : s.Sound) (m : Option Modifier) (t : Text) :
    (s.addQuery (.new m t)).2.Sound := by
  intro q hq
  rcases List.mem_append.mp hq with hq | hq
  · exact hs q hq
  · obtain rfl : q = .new m t := List.mem_singleton.mp hq
    exact Buffer.sound_ofText t

theorem query_set_of_eq (heq : g.terminal = h.terminal) (hlt : h.terminal < s.queries.length)
    (q : Query) (shelf : Shelf) :
    ({ s with queries := s.queries.set g.terminal q, shelf } : Store).query h = q := by
  show (s.queries.set g.terminal q).getD h.terminal {} = q
  simp [heq, hlt]

theorem templates_onQuery (s : Store) (g : Handle) (c : Calling Unit) :
    (s.onQuery g c).2.templates = s.templates := by
  unfold onQuery
  split <;> rfl

theorem query_onQuery_of_ne (hne : g.terminal ≠ h.terminal) (c : Calling Unit) :
    (s.onQuery g c).2.query h = s.query h := by
  unfold onQuery
  split
  · rfl
  · exact query_set_of_ne hne _ _

/-- The books of `s'` are right, and every text of `s` is the beginning of what it has become. -/
structure Extends (s s' : Store) : Prop where
  sound : s'.Sound
  text : ∀ h, h.terminal < s.queries.length → s.text h <+: s'.text h

theorem Sound.extends_self (hs : s.Sound) : s.Extends s := ⟨hs, fun _ _ => List.prefix_refl _⟩

/-- Steps that only add to their query extend the store. -/
theorem Sound.onQuery (hs : s.Sound) (g : Handle) {c : Calling Unit} (hc : c.Grows) :
    s.Extends (s.onQuery g c).2 := by
  obtain ⟨t, ht⟩ := hc ⟨s.query g, s.shelf⟩ (hs.query g)
  unfold Store.onQuery
  split
  · exact hs.extends_self
  · refine ⟨?_, fun h hlt => ?_⟩
    · intro q hq
      rcases List.mem_or_eq_of_mem_set hq with hq | rfl
      · exact hs q hq
      · exact ht.sound
    · by_cases heq : g.terminal = h.terminal
      · have hgrown : s.text h ++ t = (c.outcome ⟨s.query g, s.shelf⟩).2.query.text := by
          rw [ht.text, query_congr heq]
          rfl
        refine ⟨t, ?_⟩
        rw [hgrown]
        exact (congrArg Query.text (query_set_of_eq heq hlt _ _)).symm
      · exact ⟨[], by rw [List.append_nil]; exact congrArg Query.text (query_set_of_ne heq _ _).symm⟩

end Store

/-! ## One action -/

namespace Action

/-- Whether an action is a call on an object that leads where `h` leads. -/
def reaches (h : Handle) : Action → Bool
  | .call g _ | .clause g _ _ => g.terminal == h.terminal
  | _ => false

/-- Whether an action locks the template in a slot. -/
def locks (slot : Nat) : Action → Bool
  | .lock (.template slot' _) => slot' == slot
  | _ => false

end Action

namespace Session

variable {S : Session} {a : Action} {h : Handle} {slot : Nat}

/-- What holds of the store after a call and of the store without it holds after an action that may
    turn out to reach nothing. -/
theorem store_through (P : Store → Prop) {g : Handle}
    {f : Store → Except QueryError Unit × Store} (hsame : P S.store) (hf : P (f S.store).2) :
    P (S.through g f).2.store := by
  unfold through
  split
  · exact hf
  · exact hsame

theorem store_giveFrom (P : Store → Prop) {g : Handle} {made : Handle × Store}
    (hsame : P S.store) (hmade : P made.2) : P (S.giveFrom g made).store := by
  unfold giveFrom
  split
  · exact hmade
  · exact hsame

/-- **A query that is not reached** stays as it is, whatever the action reads and makes. -/
theorem query_after_of_not_reaches (hlt : h.terminal < S.store.queries.length)
    (ha : a.reaches h = false) : (S.after a).store.query h = S.store.query h := by
  cases a with
  | newQuery m t => exact Store.query_addQuery_old hlt _
  | newTemplate r => exact Store.query_addTemplate_old hlt r
  | newStream members => rfl
  | forward target => exact store_giveFrom (·.query h = S.store.query h) rfl rfl
  | call g c =>
    have hne : g.terminal ≠ h.terminal := by simpa [Action.reaches] using ha
    exact store_through (·.query h = S.store.query h) rfl (Store.query_onQuery_of_ne hne _)
  | clause g c m =>
    have hne : g.terminal ≠ h.terminal := by simpa [Action.reaches] using ha
    exact store_through (·.query h = S.store.query h) rfl (Store.query_onQuery_of_ne hne _)
  | lock g =>
    cases g with
    | template slot inner => exact store_through (·.query h = S.store.query h) rfl rfl
    | query slot => rfl
    | forwarder target => rfl
  | build g =>
    cases g with
    | template slot inner =>
      exact store_giveFrom (·.query h = S.store.query h) rfl (Store.query_addQuery_old hlt _)
    | query slot => rfl
    | forwarder target => rfl

/-- **A template that is not locked** by the action stays as it is, open or locked. -/
theorem template_after_of_not_locks (hlt : slot < S.store.templates.length)
    (ha : a.locks slot = false) : (S.after a).store.template slot = S.store.template slot := by
  have hcall : ∀ g c, (S.store.onQuery g c).2.template slot = S.store.template slot := by
    intro g c
    unfold Store.template
    rw [Store.templates_onQuery]
  cases a with
  | newQuery m t => rfl
  | newTemplate r => exact Store.template_addTemplate_old hlt r
  | newStream members => rfl
  | forward target => exact store_giveFrom (·.template slot = S.store.template slot) rfl rfl
  | call g c => exact store_through (·.template slot = S.store.template slot) rfl (hcall g _)
  | clause g c m => exact store_through (·.template slot = S.store.template slot) rfl (hcall g _)
  | lock g =>
    cases g with
    | template slot' inner =>
      have hne : slot' ≠ slot := by simpa [Action.locks] using ha
      refine store_through (·.template slot = S.store.template slot) rfl ?_
      show (S.store.templates.modify slot' fun t => { t with locked := true }).getD slot {}
        = S.store.templates.getD slot {}
      simp [hne]
    | query slot' => rfl
    | forwarder target => rfl
  | build g =>
    cases g with
    | template slot' inner =>
      exact store_giveFrom (·.template slot = S.store.template slot) rfl rfl
    | query slot' => rfl
    | forwarder target => rfl

/-- **Every action** keeps the books, and what a query shows as the beginning of what it will. -/
theorem extends_after (hs : S.store.Sound) (a : Action) : S.store.Extends (S.after a).store := by
  -- What is not a call reaches no query, so only the books of new ones are left to be looked at.
  have hquiet : (∀ h, a.reaches h = false) → ∀ h, h.terminal < S.store.queries.length →
      S.store.text h <+: (S.after a).store.text h := by
    intro ha h hlt
    have hsame := congrArg Query.text (query_after_of_not_reaches hlt (ha h))
    exact ⟨[], by rw [List.append_nil]; exact hsame.symm⟩
  cases a with
  | newQuery m t => exact ⟨hs.addQuery m t, hquiet fun _ => rfl⟩
  | newTemplate r => exact ⟨hs.addQuery _ _, hquiet fun _ => rfl⟩
  | newStream members => exact ⟨hs, hquiet fun _ => rfl⟩
  | forward target => exact ⟨store_giveFrom Store.Sound hs hs, hquiet fun _ => rfl⟩
  | call g c => exact store_through S.store.Extends hs.extends_self (hs.onQuery g (c.grows _))
  | clause g c m =>
    exact store_through S.store.Extends hs.extends_self (hs.onQuery g (c.grows _ m))
  | lock g =>
    cases g with
    | template slot inner => exact ⟨store_through Store.Sound hs hs, hquiet fun _ => rfl⟩
    | query slot => exact ⟨hs, hquiet fun _ => rfl⟩
    | forwarder target => exact ⟨hs, hquiet fun _ => rfl⟩
  | build g =>
    cases g with
    | template slot inner =>
      exact ⟨store_giveFrom Store.Sound hs (hs.addQuery _ _), hquiet fun _ => rfl⟩
    | query slot => exact ⟨hs, hquiet fun _ => rfl⟩
    | forwarder target => exact ⟨hs, hquiet fun _ => rfl⟩

/-! ## Runs -/

/-- The books are right in every session. -/
theorem Reached.books (hS : S.Reached) : S.store.Sound :=
  hS.induct (P := fun T => T.store.Sound) (fun _ hq => absurd hq List.not_mem_nil)
    fun _ hT a => (extends_after hT a).sound

/-- What is given out stays given out. -/
theorem mem_handles_after (hh : h ∈ S.handles) (a : Action) : h ∈ (S.after a).handles := by
  have he : S.Effect (S.after a) := effect_perform S a
  generalize S.after a = S' at he ⊢
  cases he with
  | query q => exact List.mem_cons_of_mem _ hh
  | template r => exact List.mem_cons_of_mem _ hh
  | forwarder ht => exact List.mem_cons_of_mem _ hh
  | nothing => exact hh
  | streams shelf => exact hh
  | change hg hopen q shelf => exact hh
  | lock slot => exact hh

/-- What the actions that reach the query of a handle add to its text. -/
def added (h : Handle) (S : Session) : List Action → Text
  | [] => []
  | a :: actions =>
    (if a.reaches h then ((S.after a).store.text h).drop (S.store.text h).length else [])
      ++ added h (S.after a) actions

/-- **The text after a run** is the text before, and behind it what was added through handles that
    lead to the query. -/
theorem Reached.text_run (hS : S.Reached) (hh : h ∈ S.handles) (actions : List Action) :
    (S.run actions).store.text h = S.store.text h ++ S.added h actions := by
  induction actions generalizing S with
  | nil => exact (List.append_nil _).symm
  | cons a actions ih =>
    have hlt := hS.sound.terminal_lt h hh
    have hrest := ih (hS.after a) (mem_handles_after hh a)
    have hstep : (S.after a).store.text h = S.store.text h
        ++ if a.reaches h then ((S.after a).store.text h).drop (S.store.text h).length else [] := by
      cases ha : a.reaches h with
      | true =>
        obtain ⟨t, ht⟩ := (extends_after hS.books a).text h hlt
        rw [if_pos rfl, ← ht, List.drop_left]
      | false =>
        have hsame := congrArg Query.text (query_after_of_not_reaches hlt ha)
        rw [if_neg Bool.false_ne_true, List.append_nil]
        exact hsame
    calc (S.run (a :: actions)).store.text h
        = (S.after a).store.text h ++ (S.after a).added h actions := hrest
      _ = S.store.text h ++ S.added h (a :: actions) := by
        rw [hstep, List.append_assoc]
        rfl

/-- What no action changes as long as a handle is given out stays the same in the whole run. -/
theorem Reached.run_same {α : Type} (read : Session → α) (hS : S.Reached) (hh : h ∈ S.handles)
    {actions : List Action}
    (hstep : ∀ T : Session, T.Sound → h ∈ T.handles → ∀ a ∈ actions, read (T.after a) = read T) :
    read (S.run actions) = read S := by
  have hrun : (S.run actions).Reached ∧ h ∈ (S.run actions).handles ∧
      read (S.run actions) = read S := by
    refine run_induct (P := fun T => T.Reached ∧ h ∈ T.handles ∧ read T = read S) ⟨hS, hh, rfl⟩ ?_
    rintro T ⟨hT, hgiven, hsame⟩ a ha
    exact ⟨hT.after a, mem_handles_after hgiven a, (hstep T hT.sound hgiven a ha).trans hsame⟩
  exact hrun.2.2

/-- What a build gives out, and what it shows. -/
theorem build_after {inner : Handle} (hb : .template slot inner ∈ S.handles)
    (hr : (S.store.template slot).recipe = {}) :
    let made := Handle.query S.store.queries.length
    let T := S.after (.build (.template slot inner))
    made ∈ T.handles ∧ T.store.text made = S.store.text (.template slot inner) := by
  intro made T
  have hafter : T = S.give (S.store.build slot inner) := by
    show S.giveFrom (.template slot inner) (S.store.build slot inner) = _
    rw [giveFrom, if_pos hb]
  rw [hafter]
  refine ⟨List.mem_cons_self, ?_⟩
  have hnew : (S.store.build slot inner).2.query made = (S.store.template slot).recipe.make
      (some (S.store.modifier inner)) (S.store.text inner) := Store.query_addQuery_new _ _
  show ((S.store.build slot inner).2.query made).text = S.store.text inner
  rw [hnew, hr]
  exact Query.text_new _ _

/-- **Objects are independent.**  In every session, and whatever is done in it: the query that an
    object leads to, with its text, default modifier, report and open fields, stays as it is as long
    as no call is made on an object that leads to the same query — also if other calls read it as an
    argument, in a group, as the value of a field or as a sub-query.  A template stays open or locked
    as long as it is not locked itself.  And a query that was built from a template of the standard
    kind shows what the template showed when it was built, followed by what the calls on that query
    added, and nothing else. -/
theorem Reached.independent (hS : S.Reached) :
    (∀ h ∈ S.handles, ∀ actions, (∀ a ∈ actions, a.reaches h = false) →
      (S.run actions).store.query h = S.store.query h) ∧
    (∀ slot inner, .template slot inner ∈ S.handles → ∀ actions,
      (∀ a ∈ actions, a.locks slot = false) →
      (S.run actions).store.template slot = S.store.template slot) ∧
    (∀ slot inner, .template slot inner ∈ S.handles → (S.store.template slot).recipe = {} →
      ∀ actions,
      let made := Handle.query S.store.queries.length
      let T := S.after (.build (.template slot inner))
      made ∈ T.handles ∧ (T.run actions).store.text made
        = S.store.text (.template slot inner) ++ T.added made actions) := by
  refine ⟨?_, ?_, ?_⟩
  · intro h hh actions hactions
    refine hS.run_same (fun T => T.store.query h) hh fun T hT hgiven a ha => ?_
    exact query_after_of_not_reaches (hT.terminal_lt h hgiven) (hactions a ha)
  · intro slot inner hb actions hactions
    refine hS.run_same (fun T => T.store.template slot) hb fun T hT hgiven a ha => ?_
    have hlt := hT.templates_lt (.template slot inner) hgiven slot List.mem_cons_self
    exact template_after_of_not_locks hlt (hactions a ha)
  · intro slot inner hb hr actions made T
    obtain ⟨hmade, htext⟩ := build_after hb hr
    have hrun := (hS.after (.build (.template slot inner))).text_run hmade actions
    exact ⟨hmade, hrun.trans (congrArg (· ++ T.added made actions) htext)⟩

/-- A template that is built from twice and goes on being written, and a query that is embedded in
    the first build; that build is also reached through a forwarder. -/
theorem Reached.independent_builds :
    let b := Handle.template 0 (.query 0)
    let other := Handle.query 1
    let S := ({} : Session).run [.newTemplate {}, .newQuery none ['o'],
      .call b (.argument (.text ['a']) .absent)]
    let actions := [.call b (.argument (.text ['x']) .absent), .build b,
      .call (.query 2) (.subquery (some other) .absent), .lock b, .forward (.query 2),
      .call (.forwarder (.query 2)) (.boost (.int 2)), .call b .endField]
    let T := S.after (.build b)
    S.Reached ∧ (S.run (.build b :: actions)).store.query other = S.store.query other ∧
      (S.run [.build b]).store.template 0 = S.store.template 0 ∧
      T.added (.query 2) actions = "(o) ^2.0 ".toList ∧
      (T.run actions).store.text (.query 2) = "(a) (o) ^2.0 ".toList ∧
      (T.run actions).store.text b = "(a) (x) ".toList := by
  intro b other S actions T
  have hS : S.Reached := ⟨_, rfl⟩
  have hb : b ∈ S.handles := by decide +kernel
  have hother : other ∈ S.handles := by decide +kernel
  have hr : (S.store.template 0).recipe = {} := by decide +kernel
  obtain ⟨hquery, htemplate, hbuilt⟩ := hS.independent
  have hadded : T.added (.query 2) actions = "(o) ^2.0 ".toList := by decide +kernel
  have htext := (hbuilt 0 (.query 0) hb hr actions).2
  refine ⟨hS, hquery other hother (.build b :: actions) (by decide +kernel),
    htemplate 0 (.query 0) hb [.build b] (by decide +kernel), hadded, ?_, by decide +kernel⟩
  refine htext.trans ?_
  show S.store.text b ++ T.added (.query 2) actions = _
  rw [hadded]
  decide +kernel

end Session
end SearchQuery

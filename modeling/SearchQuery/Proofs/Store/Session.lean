/-
  Sessions: a store, and who can reach what in it.

  A store may be changed through any handle.  Whoever works with it only has the handles that were
  given out: that of each new query, of each new template and of each forwarder.  The query that a
  template guards is never given out by itself, and this is what a lock rests on.

  1. **Program** — `Action`, everything that can be done from outside, and `Session.perform`.  A
     handle that was not given out reaches nothing.  `Session.Reached` says that a session is what
     some actions make of the empty one.
  2. **What an action can do (`effect_perform`)** — every action comes down to one of seven effects;
     nothing later looks at the actions again.
  3. **Handles stay in order (`Reached.sound`)** — a handle leads to slots that exist, and whatever
     leads to the query of a template passes through that template.
-/
import SearchQuery.Query.Store

namespace SearchQuery

/-! ## Actions -/

/-- Something that is done to a store from outside. -/
inductive Action where
  | newQuery (m : Option Modifier) (t : Text)
  | newTemplate (r : Recipe)
  | newStream (members : List Value)
  | forward (target : Handle)
  | call (h : Handle) (c : Call)
  | clause (h : Handle) (c : Clause) (m : Option Modifier)
  | lock (h : Handle)
  | build (h : Handle)
  deriving Repr

/-- A store, and the handles that were given out, newest first. -/
structure Session where
  store : Store := {}
  handles : List Handle := []

namespace Session

/-- The session with a new handle, and the store that came with it. -/
def give (S : Session) (made : Handle × Store) : Session := ⟨made.2, made.1 :: S.handles⟩

/-- What is done through a handle, if it was given out. -/
def through (S : Session) (h : Handle) (f : Store → Except QueryError Unit × Store) :
    Except QueryError Unit × Session :=
  if h ∈ S.handles then ((f S.store).1, { S with store := (f S.store).2 }) else (.ok (), S)

/-- The session with a new handle that is made from another one, if that was given out. -/
def giveFrom (S : Session) (source : Handle) (made : Handle × Store) : Session :=
  if source ∈ S.handles then S.give made else S

/-- Performs an action: whether it was refused, and the session after it.  Only a template can be
    locked or built from. -/
def perform (S : Session) : Action → Except QueryError Unit × Session
  | .newQuery m t => (.ok (), S.give (S.store.addQuery (.new m t)))
  | .newTemplate r => (.ok (), S.give (S.store.addTemplate r))
  | .newStream members => (.ok (), { S with store := (S.store.addStream members).2 })
  | .forward target => (.ok (), S.giveFrom target (.forwarder target, S.store))
  | .call h c => S.through h (·.call h c)
  | .clause h c m => S.through h (·.writeClause h c m)
  | .lock (.template slot inner) => S.through (.template slot inner) fun s => (.ok (), s.lock slot)
  | .build (.template slot inner) =>
    (.ok (), S.giveFrom (.template slot inner) (S.store.build slot inner))
  | .lock _ | .build _ => (.ok (), S)

/-- The session after an action, whether it is refused or not. -/
def after (S : Session) (a : Action) : Session := (S.perform a).2

/-- The session after actions. -/
def run (S : Session) (actions : List Action) : Session := actions.foldl after S

/-- `S` is what some actions make of the empty session. -/
def Reached (S : Session) : Prop := ∃ actions, S = ({} : Session).run actions

theorem run_append (S : Session) (as bs : List Action) : S.run (as ++ bs) = (S.run as).run bs :=
  List.foldl_append

theorem Reached.run {S : Session} (hS : S.Reached) (actions : List Action) :
    (S.run actions).Reached := by
  obtain ⟨before, rfl⟩ := hS
  exact ⟨before ++ actions, (run_append _ before actions).symm⟩

theorem Reached.after {S : Session} (hS : S.Reached) (a : Action) : (S.after a).Reached :=
  hS.run [a]

/-- **An invariant along a run**: what each of the actions keeps, wherever it is performed, holds
    after all of them. -/
theorem run_induct {P : Session → Prop} {S : Session} {actions : List Action} (hS : P S)
    (hstep : ∀ T, P T → ∀ a ∈ actions, P (T.after a)) : P (S.run actions) := by
  induction actions generalizing S with
  | nil => exact hS
  | cons a actions ih =>
    have hfirst := hstep S hS a List.mem_cons_self
    exact ih hfirst fun T hT a' ha' => hstep T hT a' (List.mem_cons_of_mem a ha')

/-- What holds of the empty session and is kept by every action holds of all that can be reached. -/
theorem Reached.induct {P : Session → Prop} {S : Session} (hS : S.Reached) (hempty : P {})
    (hstep : ∀ T, P T → ∀ a, P (T.after a)) : P S := by
  obtain ⟨actions, rfl⟩ := hS
  exact run_induct hempty fun T hT a _ => hstep T hT a

/-! ## What an action can do -/

/-- What an action can make of a session. -/
inductive Effect (S : Session) : Session → Prop
  | nothing : Effect S S
  /-- a query was added, and its handle given out -/
  | query (q : Query) : Effect S (S.give (S.store.addQuery q))
  /-- a template was added with its query, and the handle of the template given out -/
  | template (r : Recipe) : Effect S (S.give (S.store.addTemplate r))
  | forwarder {target : Handle} (ht : target ∈ S.handles) :
    Effect S (S.give (.forwarder target, S.store))
  /-- streams were added or read -/
  | streams (shelf : Shelf) : Effect S { S with store := { S.store with shelf } }
  /-- the query that an open handle leads to was changed, and perhaps streams were read -/
  | change {h : Handle} (hh : h ∈ S.handles) (hopen : S.store.isLocked h = false) (q : Query)
      (shelf : Shelf) :
    Effect S { S with
      store := { S.store with queries := S.store.queries.set h.terminal q, shelf } }
  | lock (slot : Nat) : Effect S { S with store := S.store.lock slot }

theorem effect_onQuery {S : Session} {h : Handle} (hh : h ∈ S.handles) (c : Calling Unit) :
    S.Effect { S with store := (S.store.onQuery h c).2 } := by
  unfold Store.onQuery
  cases hlocked : S.store.isLocked h with
  | true => exact .nothing
  | false => exact .change hh hlocked _ _

theorem effect_through {S : Session} {h : Handle} {f : Store → Except QueryError Unit × Store}
    (hf : h ∈ S.handles → S.Effect { S with store := (f S.store).2 }) :
    S.Effect (S.through h f).2 := by
  unfold through
  by_cases hh : h ∈ S.handles
  · rw [if_pos hh]; exact hf hh
  · rw [if_neg hh]; exact .nothing

theorem effect_giveFrom {S : Session} {source : Handle} {made : Handle × Store}
    (hmade : source ∈ S.handles → S.Effect (S.give made)) : S.Effect (S.giveFrom source made) := by
  unfold giveFrom
  by_cases hh : source ∈ S.handles
  · rw [if_pos hh]; exact hmade hh
  · rw [if_neg hh]; exact .nothing

/-- **Every action** has one of the effects. -/
theorem effect_perform (S : Session) (a : Action) : S.Effect (S.perform a).2 := by
  cases a with
  | newQuery m t => exact .query _
  | newTemplate r => exact .template r
  | newStream members => exact .streams _
  | forward target => exact effect_giveFrom fun ht => .forwarder ht
  | call h c => exact effect_through fun hh => effect_onQuery hh _
  | clause h c m => exact effect_through fun hh => effect_onQuery hh _
  | lock h =>
    cases h with
    | template slot inner => exact effect_through fun _ => .lock slot
    | query slot => exact .nothing
    | forwarder target => exact .nothing
  | build h =>
    cases h with
    | template slot inner => exact effect_giveFrom fun _ => .query _
    | query slot => exact .nothing
    | forwarder target => exact .nothing

/-! ## Handles stay in order -/

/-- The handles of a session are in order: they lead to slots that exist, and whatever leads to the
    query of a template passes through that template. -/
structure Sound (S : Session) : Prop where
  terminal_lt : ∀ h ∈ S.handles, h.terminal < S.store.queries.length
  templates_lt : ∀ h ∈ S.handles, ∀ slot ∈ h.templates, slot < S.store.templates.length
  guarded : ∀ slot inner, .template slot inner ∈ S.handles →
    ∀ h ∈ S.handles, h.terminal = inner.terminal → slot ∈ h.templates

variable {S S' : Session}

theorem sound_empty : ({} : Session).Sound := by
  refine ⟨?_, ?_, ?_⟩
  · intro h hh; cases hh
  · intro h hh; cases hh
  · intro slot inner hb; cases hb

/-- A handle that leads to a new slot and passes only through templates that exist may be given
    out, if it is that of a template only when it leads to that template's own query. -/
theorem Sound.give (hS : S.Sound) {g : Handle} {s : Store}
    (hqueries : S.store.queries.length < s.queries.length)
    (htemplates : S.store.templates.length ≤ s.templates.length)
    (hterminal : g.terminal = S.store.queries.length)
    (hslots : ∀ slot ∈ g.templates, slot < s.templates.length)
    (hguard : ∀ slot inner, g = .template slot inner → slot ∈ g.templates) :
    (S.give (g, s)).Sound := by
  have hold : ∀ h ∈ S.handles, h.terminal ≠ g.terminal := by
    intro h hh heq
    have hlt := hS.terminal_lt h hh
    omega
  refine ⟨?_, ?_, ?_⟩
  · intro h hh
    rcases List.mem_cons.mp hh with rfl | hh
    · show h.terminal < s.queries.length
      omega
    · exact Nat.lt_trans (hS.terminal_lt h hh) hqueries
  · intro h hh slot hslot
    rcases List.mem_cons.mp hh with rfl | hh
    · exact hslots slot hslot
    · exact Nat.lt_of_lt_of_le (hS.templates_lt h hh slot hslot) htemplates
  · intro slot inner hb h hh heq
    rcases List.mem_cons.mp hb with hnew | hb'
    · -- The new handle is that of a template: no other handle leads to its query.
      rcases List.mem_cons.mp hh with rfl | hh'
      · exact hguard slot inner hnew.symm
      · obtain rfl : .template slot inner = g := hnew
        exact absurd heq (hold h hh')
    · rcases List.mem_cons.mp hh with rfl | hh'
      · exact absurd heq.symm (hold (.template slot inner) hb')
      · exact hS.guarded slot inner hb' h hh' heq

/-- A forwarder leads where its target leads, through the same templates. -/
theorem Sound.forwarder (hS : S.Sound) {target : Handle} (ht : target ∈ S.handles) :
    (S.give (.forwarder target, S.store)).Sound := by
  have hlike : ∀ h ∈ (S.give (.forwarder target, S.store)).handles, ∃ g ∈ S.handles,
      h.terminal = g.terminal ∧ h.templates = g.templates := by
    intro h hh
    rcases List.mem_cons.mp hh with rfl | hh
    · exact ⟨target, ht, rfl, rfl⟩
    · exact ⟨h, hh, rfl, rfl⟩
  refine ⟨?_, ?_, ?_⟩
  · intro h hh
    obtain ⟨g, hg, hterminal, -⟩ := hlike h hh
    rw [hterminal]
    exact hS.terminal_lt g hg
  · intro h hh
    obtain ⟨g, hg, -, htemplates⟩ := hlike h hh
    rw [htemplates]
    exact hS.templates_lt g hg
  · intro slot inner hb h hh heq
    obtain ⟨g, hg, hterminal, htemplates⟩ := hlike h hh
    have hb : .template slot inner ∈ S.handles := by
      rcases List.mem_cons.mp hb with hb | hb
      · cases hb
      · exact hb
    rw [htemplates]
    exact hS.guarded slot inner hb g hg (hterminal.symm.trans heq)

/-- The handles stay in order when none is given out and no slot goes away. -/
theorem Sound.of_lengths (hS : S.Sound) {s : Store}
    (hqueries : s.queries.length = S.store.queries.length)
    (htemplates : s.templates.length = S.store.templates.length) :
    ({ S with store := s } : Session).Sound := by
  refine ⟨?_, ?_, hS.guarded⟩
  · intro h hh
    show h.terminal < s.queries.length
    rw [hqueries]
    exact hS.terminal_lt h hh
  · intro h hh slot hslot
    show slot < s.templates.length
    rw [htemplates]
    exact hS.templates_lt h hh slot hslot

theorem Sound.effect (hS : S.Sound) (he : S.Effect S') : S'.Sound := by
  cases he with
  | nothing => exact hS
  | query q =>
    refine hS.give (by simp) (Nat.le_refl _) rfl ?_ ?_
    · intro slot hslot; cases hslot
    · intro slot inner heq; cases heq
  | template r =>
    refine hS.give (by simp) (by simp) rfl ?_ ?_
    · intro slot hslot
      obtain rfl : slot = S.store.templates.length := List.mem_singleton.mp hslot
      simp
    · intro slot inner heq
      rw [heq]
      exact List.mem_cons_self
  | forwarder ht => exact hS.forwarder ht
  | streams shelf => exact hS.of_lengths rfl rfl
  | change hh hopen q shelf => exact hS.of_lengths (by simp) rfl
  | lock slot => exact hS.of_lengths rfl (by simp [Store.lock])

/-- **Handles stay in order** whatever is done. -/
theorem Reached.sound (hS : S.Reached) : S.Sound :=
  hS.induct sound_empty fun T hT a => hT.effect (effect_perform T a)

end Session
end SearchQuery

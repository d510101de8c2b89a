/-
  Locked templates never change.

  From the moment a template is locked nothing that is done in the session reaches its query again:
  every way to that query passes through the template, and the template lets no call through.

  1. **Reading what others change** — which queries and templates stay the same when a query is
     added, a call is made through another handle, or a template is locked; and what a call comes to
     through a handle that is locked or open.
  2. **One action (`Frozen.effect`)** — by the effects of an action; the one that changes a query
     cannot be on the template's own, as its handle would not be open.
  3. **Runs (`Reached.locked_for_good`)** — by induction on the actions, and then what a call through
     any number of forwarders, a look and a build find.
-/
import SearchQuery.Proofs.Store.Session

namespace SearchQuery

/-! ## Handles -/

/-- A handle with forwarders in front of it. -/
def Handle.behind : Nat → Handle → Handle
  | 0, h => h
  | n + 1, h => .forwarder (h.behind n)

@[simp] theorem Handle.terminal_behind (n : Nat) (h : Handle) :
    (h.behind n).terminal = h.terminal := by
  induction n with
  | zero => rfl
  | succ n ih => exact ih

@[simp] theorem Handle.templates_behind (n : Nat) (h : Handle) :
    (h.behind n).templates = h.templates := by
  induction n with
  | zero => rfl
  | succ n ih => exact ih

/-! ## Reading what others change -/

namespace Store

variable {s : Store} {h : Handle}

/-- Handles that lead to one slot lead to one query. -/
theorem query_congr {g : Handle} (heq : g.terminal = h.terminal) : s.query g = s.query h := by
  unfold query
  rw [heq]

theorem query_addQuery_old (hh : h.terminal < s.queries.length) (q : Query) :
    (s.addQuery q).2.query h = s.query h := by
  show (s.queries ++ [q]).getD h.terminal {} = s.queries.getD h.terminal {}
  simp [List.getElem?_append_left hh]

theorem query_addQuery_new (s : Store) (q : Query) :
    (s.addQuery q).2.query (s.addQuery q).1 = q := by
  show (s.queries ++ [q]).getD s.queries.length {} = q
  simp

theorem query_addTemplate_old (hh : h.terminal < s.queries.length) (r : Recipe) :
    (s.addTemplate r).2.query h = s.query h :=
  query_addQuery_old hh (r.make none [])

theorem template_addTemplate_old {slot : Nat} (hslot : slot < s.templates.length) (r : Recipe) :
    (s.addTemplate r).2.template slot = s.template slot := by
  show (s.templates ++ [(⟨r, false⟩ : Template)]).getD slot {} = s.templates.getD slot {}
  simp [List.getElem?_append_left hslot]

theorem query_set_of_ne {g : Handle} (hne : g.terminal ≠ h.terminal) (q : Query) (shelf : Shelf) :
    ({ s with queries := s.queries.set g.terminal q, shelf } : Store).query h = s.query h := by
  show (s.queries.set g.terminal q).getD h.terminal {} = s.queries.getD h.terminal {}
  simp [List.getElem?_set_ne hne]

/-- A locked template stays as it is when it is locked once more. -/
theorem template_lock_of_locked {slot : Nat} (hlocked : (s.template slot).locked = true)
    (slot' : Nat) : (s.lock slot').template slot = s.template slot := by
  show (s.templates.modify slot' fun t => { t with locked := true }).getD slot {}
    = s.templates.getD slot {}
  have hread : (s.templates.getD slot {}).locked = true := hlocked
  rw [List.getD_eq_getElem?_getD] at hread ⊢
  rw [List.getD_eq_getElem?_getD, List.getElem?_modify]
  cases ht : s.templates[slot]? with
  | none => simp
  | some t =>
    rw [ht] at hread
    by_cases heq : slot' = slot
    · obtain ⟨recipe, locked⟩ := t
      obtain rfl : locked = true := hread
      simp [heq]
    · simp [heq]

theorem template_lock_self {slot : Nat} (hslot : slot < s.templates.length) :
    (s.lock slot).template slot = { s.template slot with locked := true } := by
  show (s.templates.modify slot fun t => { t with locked := true }).getD slot {}
    = { s.templates.getD slot {} with locked := true }
  simp [List.getElem?_eq_getElem hslot]

/-- **The guard comes first**: through a locked template nothing is looked at. -/
theorem onQuery_of_locked {slot : Nat} (hslot : slot ∈ h.templates)
    (hlocked : (s.template slot).locked = true) (c : Calling Unit) :
    s.onQuery h c = (.error .locked, s) := by
  have hguard : s.isLocked h = true := List.any_eq_true.mpr ⟨slot, hslot, hlocked⟩
  unfold onQuery
  rw [if_pos hguard]

/-- A call through an open handle, in full. -/
theorem call_of_open (hopen : s.isLocked h = false) (c : Call) :
    let r := c.run (s.around h) ⟨s.query h, s.shelf⟩
    s.call h c
      = (r.1, { s with queries := s.queries.set h.terminal r.2.query, shelf := r.2.shelf }) := by
  unfold call onQuery
  rw [if_neg (by simp [hopen])]
  rfl

end Store

namespace Session

variable {S S' : Session}

/-! ## One action -/

/-- The template in a slot, which guards the query of `inner`, is locked; it is `t`, and the query
    is `q`. -/
structure Frozen (S : Session) (slot : Nat) (inner : Handle) (t : Template) (q : Query) : Prop where
  given : .template slot inner ∈ S.handles
  locked : t.locked = true
  template : S.store.template slot = t
  query : S.store.query inner = q

variable {slot : Nat} {inner : Handle} {t : Template} {q : Query}

/-- **One action** leaves a locked template and its query alone. -/
theorem Frozen.effect (hf : S.Frozen slot inner t q) (hS : S.Sound) (he : S.Effect S') :
    S'.Frozen slot inner t q := by
  have hterminal : inner.terminal < S.store.queries.length :=
    hS.terminal_lt (.template slot inner) hf.given
  have hslot : slot < S.store.templates.length :=
    hS.templates_lt (.template slot inner) hf.given slot List.mem_cons_self
  have hlocked : (S.store.template slot).locked = true := by rw [hf.template]; exact hf.locked
  cases he with
  | nothing => exact hf
  | query q' =>
    have hquery := Store.query_addQuery_old hterminal q'
    exact ⟨List.mem_cons_of_mem _ hf.given, hf.locked, hf.template, hquery.trans hf.query⟩
  | template r =>
    have htemplate := Store.template_addTemplate_old hslot r
    have hquery := Store.query_addTemplate_old hterminal r
    exact ⟨List.mem_cons_of_mem _ hf.given, hf.locked, htemplate.trans hf.template,
      hquery.trans hf.query⟩
  | forwarder ht => exact ⟨List.mem_cons_of_mem _ hf.given, hf.locked, hf.template, hf.query⟩
  | streams shelf => exact ⟨hf.given, hf.locked, hf.template, hf.query⟩
  | @change h hh hopen q' shelf =>
    -- A handle that leads to the template's query passes through the template, and is not open.
    have hne : h.terminal ≠ inner.terminal := by
      intro heq
      have hthrough := hS.guarded slot inner hf.given h hh heq
      rw [Store.isLocked, List.any_eq_false] at hopen
      exact hopen slot hthrough hlocked
    have hquery := Store.query_set_of_ne (s := S.store) hne q' shelf
    exact ⟨hf.given, hf.locked, hf.template, hquery.trans hf.query⟩
  | lock slot' =>
    have htemplate := Store.template_lock_of_locked hlocked slot'
    exact ⟨hf.given, hf.locked, htemplate.trans hf.template, hf.query⟩

/-! ## Runs -/

theorem Frozen.run (hf : S.Frozen slot inner t q) (hS : S.Reached) (actions : List Action) :
    (S.run actions).Frozen slot inner t q := by
  have hrun : (S.run actions).Reached ∧ (S.run actions).Frozen slot inner t q := by
    refine run_induct (P := fun T => T.Reached ∧ T.Frozen slot inner t q) ⟨hS, hf⟩ ?_
    rintro T ⟨hT, hfrozen⟩ a -
    exact ⟨hT.after a, hfrozen.effect hT.sound (effect_perform T a)⟩
  exact hrun.2

/-- A template is locked by locking it, and is what it was apart from that. -/
theorem frozen_lock (hS : S.Reached) (hb : .template slot inner ∈ S.handles) :
    (S.after (.lock (.template slot inner))).Frozen slot inner
      { S.store.template slot with locked := true } (S.store.query inner) := by
  have hslot : slot < S.store.templates.length :=
    hS.sound.templates_lt (.template slot inner) hb slot List.mem_cons_self
  have hafter : S.after (.lock (.template slot inner))
      = { S with store := S.store.lock slot } := by
    show (S.through (.template slot inner) fun s => (.ok (), s.lock slot)).2 = _
    rw [through, if_pos hb]
  rw [hafter]
  exact ⟨hb, rfl, Store.template_lock_self hslot, rfl⟩

/-- What is built from a template of the standard kind. -/
theorem Frozen.query_build (hf : S.Frozen slot inner t q) (hr : t.recipe = {}) :
    (S.store.build slot inner).2.query (S.store.build slot inner).1
      = .new (some q.modifier) q.text := by
  have hmade : (S.store.build slot inner).2.query (S.store.build slot inner).1
      = (S.store.template slot).recipe.make (some (S.store.modifier inner)) (S.store.text inner) :=
    Store.query_addQuery_new _ _
  rw [hmade, hf.template]
  simp [Recipe.make, hr, Store.modifier, Store.text, hf.query]

/-- **A locked template never changes.**  Whatever is done after it was locked, and through any
    number of forwarders in front of it: every call is refused for the lock, whatever it is given,
    and nothing changes; the query behind it is what it was; the template is still locked; and what
    is built from it is a new query with its text and its default modifier, to which no handle led
    before. -/
theorem Reached.locked_for_good (hS : S.Reached) (hb : .template slot inner ∈ S.handles)
    (hr : (S.store.template slot).recipe = {}) (actions : List Action) (n : Nat) :
    let b := Handle.template slot inner
    let T := (S.after (.lock b)).run actions
    (∀ c, T.store.call (b.behind n) c = (.error .locked, T.store)) ∧
      (∀ c m, T.store.writeClause (b.behind n) c m = (.error .locked, T.store)) ∧
      T.store.query (b.behind n) = S.store.query b ∧
      (T.store.template slot).locked = true ∧
      let made := T.store.build slot inner
      (∀ h ∈ T.handles, h.terminal ≠ made.1.terminal ∧ made.2.query h = T.store.query h) ∧
        (made.2.query made.1).text = S.store.text b ∧
        (made.2.query made.1).modifier = S.store.modifier b ∧
        (made.2.query made.1).openFields = [] ∧
        (made.2.query made.1).succeeded = false := by
  intro b T
  have hfrozen := (frozen_lock hS hb).run (hS.after _) actions
  have hlocked : (T.store.template slot).locked = true := by rw [hfrozen.template]
  have hquery : T.store.query (b.behind n) = S.store.query b :=
    (Store.query_congr (Handle.terminal_behind n b)).trans hfrozen.query
  have hslot : slot ∈ (b.behind n).templates := by
    rw [Handle.templates_behind]; exact List.mem_cons_self
  refine ⟨fun c => Store.onQuery_of_locked hslot hlocked _,
    fun c m => Store.onQuery_of_locked hslot hlocked _, hquery, hlocked, ?_⟩
  · intro made
    -- What is built goes into a new slot, which no handle leads to yet.
    have hT := ((hS.after (.lock b)).run actions).sound
    have hnew : made.2.query made.1 = .new (some (S.store.modifier b)) (S.store.text b) :=
      hfrozen.query_build hr
    refine ⟨?_, ?_⟩
    · intro h hh
      have hlt := hT.terminal_lt h hh
      exact ⟨Nat.ne_of_lt hlt, Store.query_addQuery_old hlt _⟩
    · rw [hnew]
      exact ⟨Query.text_new _ _, rfl, rfl, rfl⟩

/-- A template for articles, locked, then tried through a forwarder and built from. -/
theorem Reached.locked_for_good_articles :
    let b := Handle.template 0 (.query 0)
    let S := ({} : Session).run [.newTemplate {}, .forward b,
      .call (.forwarder b) (.field (some "type".toList) (.text "article".toList) (.mandatory true)
        none none)]
    let T := (S.after (.lock b)).run [.call (.forwarder b) (.boost (.int 0)), .build b,
      .call (.query 1) (.argument (.text ['x']) .absent), .call b (.setWildcarded true)]
    S.Reached ∧ b ∈ S.handles ∧ (S.store.template 0).recipe = {} ∧
      T.store.text (.query 1) = "+type:((article) ) (x) ".toList ∧
      T.store.call (.forwarder b) .endField = (.error .locked, T.store) ∧
      T.store.text (.forwarder b) = "+type:((article) ) ".toList ∧
      (T.store.build 0 (.query 0)).1 = .query 2 ∧
      (T.store.build 0 (.query 0)).2.text (.query 2) = "+type:((article) ) ".toList := by
  intro b S T
  have hS : S.Reached := ⟨_, rfl⟩
  have hb : b ∈ S.handles := by decide +kernel
  have hr : (S.store.template 0).recipe = {} := by decide +kernel
  have htext : S.store.text b = "+type:((article) ) ".toList := by decide +kernel
  have hbuilt : (T.store.build 0 (.query 0)).1 = .query 2 := by decide +kernel
  obtain ⟨hcall, -, hquery, -, -, hmade, -, -, -⟩ := hS.locked_for_good hb hr
    [.call (.forwarder b) (.boost (.int 0)), .build b,
      .call (.query 1) (.argument (.text ['x']) .absent), .call b (.setWildcarded true)] 1
  refine ⟨hS, hb, hr, by decide +kernel, hcall _, ?_, hbuilt, ?_⟩
  · rw [← htext]
    exact congrArg Query.text hquery
  · rw [← htext, ← hbuilt]
    exact hmade

end Session
end SearchQuery

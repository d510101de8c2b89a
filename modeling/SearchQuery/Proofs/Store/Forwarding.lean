/-
  Forwarding is transparent.

  A chain of forwarders and open templates passes on every request with all its arguments.  What
  happens at its end is what would happen without it.

  1. **Links (`Store.send_eq`)** — by induction on the chain: a request is the call it stands for on
     the whole chain, whatever the links pass on to each other, and only the answer names the head.
  2. **Side by side (`Store.Beside`)** — two stores in which one query follows another and all other
     queries are the same.  One request keeps them side by side (`Beside.send`), and so do requests
     made one after the other (`Beside.sendAll`, by induction on the run).
  3. **Chains (`Store.Sound.forwards`)** — the head of a chain, the query at its end, and another
     query that shows the same.
-/
import SearchQuery.Proofs.Query.Simulation
import SearchQuery.Proofs.Store.Independence
import SearchQuery.Query.Forward

namespace SearchQuery

/-! ## Links -/

/-- A request that was passed on stands for the same call. -/
@[simp] theorem Request.call_passedOn (r : Request) : r.passedOn.call = r.call := by
  cases r <;> rfl

namespace Store

variable {s s' : Store} {h h' : Handle}

/-- An open template takes no part in a call. -/
theorem call_template {slot : Nat} (hopen : (s.template slot).locked = false) (inner : Handle)
    (c : Call) : s.call (.template slot inner) c = s.call inner c := by
  have hguard : s.isLocked (.template slot inner) = s.isLocked inner := by
    show ((s.template slot).locked || s.isLocked inner) = s.isLocked inner
    rw [hopen, Bool.false_or]
  unfold call onQuery
  rw [hguard]
  rfl

/-- A locked template refuses every call. -/
theorem call_of_locked {slot : Nat} (hlocked : (s.template slot).locked = true) (inner : Handle)
    (c : Call) : s.call (.template slot inner) c = (.error .locked, s) :=
  onQuery_of_locked List.mem_cons_self hlocked _

/-- **Sending is calling**: however long the chain is, a request has the effect of the call that it
    stands for, and gives back the head. -/
theorem send_eq (s : Store) (h : Handle) (r : Request) :
    s.send h r = ((s.call h r.call).1.map fun _ => r.answer h, (s.call h r.call).2) := by
  induction h generalizing r with
  | query slot => rfl
  | template slot inner ih =>
    rw [send]
    cases hlocked : (s.template slot).locked with
    | true =>
      rw [call_of_locked hlocked]
      rfl
    | false =>
      rw [call_template hlocked, if_neg Bool.false_ne_true, ih, Request.call_passedOn]
      cases (s.call inner r.call).1 <;> rfl
  | forwarder target ih =>
    rw [send, ih, Request.call_passedOn]
    show _ = ((s.call target r.call).1.map _, (s.call target r.call).2)
    cases (s.call target r.call).1 <;> rfl

/-- Reading goes to the end of the chain, past every lock. -/
theorem read_eq (s : Store) (h : Handle) : s.read h = s.query h := by
  induction h with
  | query slot => rfl
  | template slot inner ih => exact ih
  | forwarder target ih => exact ih

theorem templates_call (s : Store) (g : Handle) (c : Call) :
    (s.call g c).2.templates = s.templates :=
  templates_onQuery s g _

theorem isLocked_congr (heq : s'.templates = s.templates) (h : Handle) :
    s'.isLocked h = s.isLocked h := by
  unfold isLocked template
  rw [heq]

/-- A request changes no lock. -/
theorem isLocked_send (s : Store) (g h : Handle) (r : Request) :
    (s.send g r).2.isLocked h = s.isLocked h := by
  rw [send_eq]
  exact isLocked_congr (templates_call s g r.call) h

/-- Without an open field there is none to close. -/
theorem send_endField_of_closed (hopen : s.isLocked h = false)
    (hfields : (s.query h).openFields = []) :
    (s.send h .endField).1 = .error .noOpenField := by
  have hcall := call_of_open hopen .endField
  rw [run_endField, hfields] at hcall
  rw [send_eq]
  exact congrArg (fun r => r.1.map fun _ => some h) hcall

/-- An open field can be closed. -/
theorem send_endField_of_opened (hopen : s.isLocked h = false)
    (hfields : (s.query h).openFields ≠ []) : (s.send h .endField).1 = .ok (some h) := by
  have hcall := call_of_open hopen .endField
  rw [send_eq]
  cases hopened : (s.query h).openFields with
  | nil => exact absurd hopened hfields
  | cons field fields =>
    rw [run_endField, hopened] at hcall
    exact congrArg (fun r => r.1.map fun _ => some h) hcall

/-- An open chain is its end. -/
theorem send_terminal (hopen : s.isLocked h = false) (r : Request) :
    let terminal := Handle.query h.terminal
    s.send h r = ((s.send terminal r).1.map fun _ => r.answer h, (s.send terminal r).2) := by
  intro terminal
  have hsame : s.call h r.call = s.call terminal r.call :=
    (call_of_open hopen r.call).trans (call_of_open (h := terminal) rfl r.call).symm
  rw [send_eq, send_eq, hsame]
  cases (s.call terminal r.call).1 <;> rfl

theorem sendAll_terminal (hopen : s.isLocked h = false) (rs : List Request) :
    s.sendAll h rs = s.sendAll (.query h.terminal) rs := by
  induction rs generalizing s with
  | nil => rfl
  | cons r rs ih =>
    have hfirst : (s.send h r).2 = (s.send (.query h.terminal) r).2 := by rw [send_terminal hopen]
    have hrest := ih (s := (s.send h r).2) (by rw [isLocked_send]; exact hopen)
    show (s.send h r).2.sendAll h rs = (s.send (.query h.terminal) r).2.sendAll _ rs
    rw [hrest, hfirst]

theorem isLocked_sendAll (s : Store) (g h : Handle) (rs : List Request) :
    (s.sendAll g rs).isLocked h = s.isLocked h := by
  induction rs generalizing s with
  | nil => rfl
  | cons r rs ih => exact (ih (s.send g r).2).trans (isLocked_send s g h r)

end Store

/-! ## Side by side -/

/-- Whether `g` leads where `h` or `h'` leads. -/
def Handle.meets (h h' g : Handle) : Bool := g.terminal == h.terminal || g.terminal == h'.terminal

theorem Handle.not_meets {h h' g : Handle} (hg : h.meets h' g = false) :
    h.terminal ≠ g.terminal ∧ h'.terminal ≠ g.terminal := by
  simp only [meets, Bool.or_eq_false_iff, beq_eq_false_iff_ne] at hg
  exact ⟨Ne.symm hg.1, Ne.symm hg.2⟩

/-- The query of `h'` in the second store follows that of `h` in the first; both are open, all other
    queries are the same, and so are the streams. -/
structure Store.Beside (reporting : Bool) (k : Nat) (s₀ : Shelf) (h h' : Handle) (s s' : Store) :
    Prop where
  follows : (s.query h).Follows reporting k (s'.query h')
  others : ∀ g, h.meets h' g = false → s'.query g = s.query g
  shelf : s'.shelf = s.shelf
  within : s.shelf.Within s₀
  isOpen : s.isLocked h = false
  isOpen' : s'.isLocked h' = false
  terminal_lt : h.terminal < s.queries.length
  terminal_lt' : h'.terminal < s'.queries.length

/-- A request that can be made of both: it refers to neither, boosts only where both report the
    same, and closes no field that only the first has open. -/
structure Store.Admits (reporting : Bool) (k : Nat) (s₀ : Shelf) (h h' : Handle) (s' : Store)
    (r : Request) : Prop where
  avoids : r.call.Avoids (h.meets h') s₀
  boost : r.call.isBoost = true → reporting = true
  closes : r.call = .endField → (s'.query h').openFields = [] → k = 0

namespace Store

variable {reporting : Bool} {k : Nat} {s₀ : Shelf} {h h' : Handle} {s s' : Store}

/-- The queries around the two calls agree but for the receivers. -/
theorem Beside.agreeBut (hb : Beside reporting k s₀ h h' s s') :
    (s.around h).AgreeBut (h.meets h') (s'.around h') where
  queries := ⟨fun g hg => congrArg Query.text (hb.others g hg),
    fun g hg => congrArg Query.modifier (hb.others g hg)⟩
  receiver := fun _ hg => Bool.or_eq_true _ _ ▸ Or.inl hg
  receiver' := fun _ hg => Bool.or_eq_true _ _ ▸ Or.inr hg

/-- **One request** of both is refused for the same or answered in both, and leaves them side by
    side. -/
theorem Beside.send (hb : Beside reporting k s₀ h h' s s') {r : Request}
    (hr : Admits reporting k s₀ h h' s' r) :
    (s'.send h' r).1 = (s.send h r).1.map (fun _ => r.answer h') ∧
      Beside reporting k s₀ h h' (s.send h r).2 (s'.send h' r).2 := by
  have hscene : Scene.Follows reporting k s₀ ⟨s.query h, s.shelf⟩ ⟨s'.query h', s'.shelf⟩ :=
    ⟨hb.follows, hb.shelf, hb.within⟩
  have halike := Call.alike_run hscene hb.agreeBut hr.avoids hr.boost hr.closes
  have hcall := call_of_open hb.isOpen r.call
  have hcall' := call_of_open hb.isOpen' r.call
  refine ⟨?_, ?_⟩
  · rw [send_eq, send_eq, hcall, hcall', halike.outcome]
    cases (r.call.run (s.around h) ⟨s.query h, s.shelf⟩).1 <;> rfl
  · have hlocked := isLocked_send s h h r
    have hlocked' := isLocked_send s' h' h' r
    rw [send_eq] at hlocked hlocked' ⊢
    rw [send_eq]
    rw [hcall] at hlocked ⊢
    rw [hcall'] at hlocked' ⊢
    refine ⟨?_, fun g hg => ?_, halike.scene.shelf, halike.scene.within, hlocked.trans hb.isOpen,
      hlocked'.trans hb.isOpen', ?_, ?_⟩
    · rw [query_set_of_eq rfl hb.terminal_lt, query_set_of_eq rfl hb.terminal_lt']
      exact halike.scene.query
    · obtain ⟨hne, hne'⟩ := Handle.not_meets hg
      rw [query_set_of_ne hne, query_set_of_ne hne']
      exact hb.others g hg
    · simpa using hb.terminal_lt
    · simpa using hb.terminal_lt'

/-- **A run of requests** leaves both side by side, if each of them can be made when its turn
    comes. -/
theorem Beside.sendAll (hb : Beside reporting k s₀ h h' s s') (rs : List Request)
    (hrs : ∀ before r, before ++ [r] <+: rs →
      Admits reporting k s₀ h h' (s'.sendAll h' before) r) :
    Beside reporting k s₀ h h' (s.sendAll h rs) (s'.sendAll h' rs) := by
  induction rs generalizing s s' with
  | nil => exact hb
  | cons r rs ih =>
    have hfirst := (hb.send (hrs [] r ⟨rs, rfl⟩)).2
    refine ih hfirst fun before r' hbefore => ?_
    exact hrs (r :: before) r' (List.cons_prefix_cons.mpr ⟨rfl, hbefore⟩)

end Store

/-! ## Chains -/

/-- **Forwarding is transparent.**  For an open chain of any length, and after any requests made of
    its head, whatever was given or left out: the store is the one that the same requests of the
    query at the end would have left, and what is read at the head is that query.  The next request
    does and is refused for what it would be there, and gives back the head unless it sets a
    property.  The same requests of another query that showed the same at first, none of which refer
    to the chain or to that query, leave it showing the same after every step and are refused for
    the same.  In every session the books of the store are right, and handles lead to queries that
    exist (`Session.Reached.books`, `Session.Reached.sound`). -/
theorem Store.Sound.forwards {s : Store} (hs : s.Sound) {h : Handle}
    (hlt : h.terminal < s.queries.length) (hopen : s.isLocked h = false) (rs : List Request) :
    let terminal := Handle.query h.terminal
    let t := s.sendAll h rs
    t = s.sendAll terminal rs ∧ t.read h = t.query terminal ∧
      (∀ r, t.send h r = ((t.send terminal r).1.map fun _ => r.answer h, (t.send terminal r).2)) ∧
      ∀ twin, twin < s.queries.length → (s.query h).Matches (s.query (.query twin)) →
        (∀ r ∈ rs, r.call.Avoids (h.meets (.query twin)) s.shelf) →
        let t' := s.sendAll (.query twin) rs
        (t.query h).Matches (t'.query (.query twin)) ∧
          ∀ r, r.call.Avoids (h.meets (.query twin)) s.shelf →
            (t.send h r).1 = (t'.send (.query twin) r).1.map fun _ => r.answer h := by
  intro terminal t
  have hstill : t.isLocked h = false := (isLocked_sendAll s h h rs).trans hopen
  refine ⟨sendAll_terminal hopen rs, read_eq t h, fun r => send_terminal hstill r, ?_⟩
  intro twin htwin hmatches hrs t'
  have hb : Beside true 0 s.shelf h (.query twin) s s :=
    ⟨hmatches.follows (hs.query h) (hs.query _), fun _ _ => rfl, rfl, .refl _, hopen, rfl, hlt,
      htwin⟩
  have hrun := hb.sendAll rs fun before r hbefore =>
    ⟨hrs r (hbefore.subset (by simp)), fun _ => rfl, fun _ _ => rfl⟩
  refine ⟨hrun.follows.matches, fun r hr => ?_⟩
  have houtcome := (hrun.send ⟨hr, fun _ => rfl, fun _ _ => rfl⟩).1
  rw [houtcome, send_eq]
  cases (t.call h r.call).1 <;> rfl

/-- A forwarder to a forwarder to a template, a query with the same text, and arguments that are left
    out, refused and embedded. -/
theorem Store.forwards_twins :
    let b := Handle.template 0 (.query 0)
    let h := Handle.forwarder (.forwarder b)
    let twin := Handle.query 1
    let S := ({} : Session).run [.newTemplate {}, .newQuery none [], .newQuery none ['o'],
      .forward b, .forward (.forwarder b)]
    let rs := [Request.argument (.text ['a']) none, .startField (some ['f']) none,
      .subquery (some (.query 2)) (some (.mandatory true)), .endField, .boost (.int 2)]
    let t := S.store.sendAll h rs
    let t' := S.store.sendAll twin rs
    S.Reached ∧ (t.query h).Matches (t'.query twin) ∧
      (t.read h).text = "(a) f:(+(o) ) ^2.0 ".toList ∧
      (t'.query twin).text = "(a) f:(+(o) ) ^2.0 ".toList ∧
      (t.send h (.unescaped (some ['x']) none)).1 = .ok (some h) ∧
      (t.send h .endField).1 = .error .noOpenField := by
  intro b h twin S rs t t'
  have hS : S.Reached := ⟨_, rfl⟩
  have hlt : h.terminal < S.store.queries.length := by decide +kernel
  have hopen : S.store.isLocked h = false := by decide +kernel
  have htwin : 1 < S.store.queries.length := by decide +kernel
  have hmatches : (S.store.query h).Matches (S.store.query twin) := by
    refine ⟨?_, ?_, ?_, ?_⟩ <;> decide +kernel
  have havoids : ∀ r ∈ rs, r.call.Avoids (h.meets twin) S.store.shelf := by
    simp [rs, Request.call, Call.Avoids, Call.values, Value.text, Handle.meets, Handle.terminal, h,
      b, twin]
  obtain ⟨-, hread, hsend, hsame⟩ := hS.books.forwards hlt hopen rs
  obtain ⟨hrun, houtcome⟩ := hsame 1 htwin hmatches havoids
  have htext : (t'.query twin).text = "(a) f:(+(o) ) ^2.0 ".toList := by decide +kernel
  refine ⟨hS, hrun, ?_, htext, ?_, ?_⟩
  · rw [hread]
    exact hrun.text.symm.trans htext
  · have hanswer := houtcome (.unescaped (some ['x']) none) (by simp [Request.call, Call.Avoids,
      Call.values])
    exact hanswer
  · have hclosed : (t.query (.query 0)).openFields = [] := by decide +kernel
    have hrefused := send_endField_of_closed (h := .query 0) (s := t) rfl hclosed
    have hanswer := hsend .endField
    rw [show Handle.query h.terminal = .query 0 from rfl, hrefused] at hanswer
    exact congrArg Prod.fst hanswer

end SearchQuery

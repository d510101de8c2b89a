/-
  What is built from a template continues it.

  A build copies what the template shows, its text and its default modifier, and nothing else.  What
  is not shown comes in only where a field is closed: the fields that the template has open are not
  open in what is built, and cannot be closed there.

  1. **Side by side (`Session.Reached.beside_built`)** — a new build follows its template, with as
     many fields less open as the template has.
  2. **Runs (`Session.Reached.continues_template`)** — from there both go on alike, as long as no
     field of the template is to be closed.
-/
import SearchQuery.Proofs.Store.Forwarding

namespace SearchQuery.Session

variable {S : Session} {slot : Nat} {inner : Handle}

/-- A new build, beside its template. -/
theorem Reached.beside_built (hS : S.Reached) (hb : .template slot inner ∈ S.handles)
    (hr : (S.store.template slot).recipe = {})
    (hopen : S.store.isLocked (.template slot inner) = false) :
    let b := Handle.template slot inner
    let made := S.store.build slot inner
    Store.Beside false (S.store.query b).openFields.length S.store.shelf b made.1 made.2 made.2 := by
  intro b made
  have hlt : b.terminal < S.store.queries.length := hS.sound.terminal_lt b hb
  have hlength : made.2.queries.length = S.store.queries.length + 1 := List.length_append
  have hold : made.2.query b = S.store.query b := Store.query_addQuery_old hlt _
  have hnew : made.2.query made.1 = .new (some (S.store.modifier b)) (S.store.text b) := by
    have hmade : made.2.query made.1 = (S.store.template slot).recipe.make
        (some (S.store.modifier inner)) (S.store.text inner) := Store.query_addQuery_new _ _
    rw [hmade, hr]
    rfl
  refine ⟨?_, fun _ _ => rfl, rfl, .refl _, hopen, rfl, ?_, ?_⟩
  · rw [hold, hnew]
    refine ⟨Query.text_new _ _, rfl, (Nat.zero_add _).symm, Bool.noConfusion, hS.books.query b,
      Buffer.sound_ofText _⟩
  · rw [hlength]; omega
  · show S.store.queries.length < made.2.queries.length
    rw [hlength]; omega

/-- **What is built continues its template.**  For every open template of the standard kind, in
    every session, and all requests but boosts that refer neither to the template nor to what is
    built from it: made of either of them, they leave the same text and the same default modifier
    after every step, and are refused for the same.  Only a field that the template had open can be
    closed on the template alone; on what is built that is refused, as no field is open there. -/
theorem Reached.continues_template (hS : S.Reached) (hb : .template slot inner ∈ S.handles)
    (hr : (S.store.template slot).recipe = {})
    (hopen : S.store.isLocked (.template slot inner) = false) (rs : List Request) :
    let b := Handle.template slot inner
    let made := S.store.build slot inner
    let opened := (S.store.query b).openFields
    (∀ r ∈ rs, r.call.Avoids (b.meets made.1) S.store.shelf ∧ r.call.isBoost = false) →
    (∀ before, before ++ [.endField] <+: rs →
      opened = [] ∨ ((made.2.sendAll made.1 before).query made.1).openFields ≠ []) →
    let s := made.2.sendAll b rs
    let t := made.2.sendAll made.1 rs
    t.text made.1 = s.text b ∧ t.modifier made.1 = s.modifier b ∧
      (∀ r, r.call.Avoids (b.meets made.1) S.store.shelf → r.call.isBoost = false →
        (r = .endField → opened = [] ∨ (t.query made.1).openFields ≠ []) →
        (t.send made.1 r).1 = (s.send b r).1.map fun _ => r.answer made.1) ∧
      (opened ≠ [] → (t.query made.1).openFields = [] →
        (t.send made.1 .endField).1 = .error .noOpenField ∧
          (s.send b .endField).1 = .ok (some b)) := by
  intro b made opened hrs hend s t
  -- Only the request to close a field stands for the call that closes one.
  have hcloses : ∀ r : Request, r.call = .endField → r = .endField := by
    intro r h
    cases r <;> cases h
    rfl
  have hcount : ∀ (q : Query) (r : Request),
      (r = .endField → opened = [] ∨ q.openFields ≠ []) →
      r.call = .endField → q.openFields = [] → opened.length = 0 := by
    intro q r h hr hnone
    rcases h (hcloses r hr) with hclosed | hsome
    · rw [hclosed]; rfl
    · exact absurd hnone hsome
  have hbeside := hS.beside_built hb hr hopen
  have hrun := hbeside.sendAll rs fun before r hbefore => by
    obtain ⟨havoids, hboost⟩ := hrs r (hbefore.subset (by simp))
    refine ⟨havoids, fun h => absurd (hboost.symm.trans h) Bool.noConfusion, ?_⟩
    exact hcount _ r fun h => hend before (h ▸ hbefore)
  refine ⟨hrun.follows.text, hrun.follows.modifier, fun r havoids hboost hr => ?_, ?_⟩
  · have hadmits : Store.Admits false opened.length S.store.shelf b made.1 t r :=
      ⟨havoids, fun h => absurd (hboost.symm.trans h) Bool.noConfusion, hcount _ r hr⟩
    exact (hrun.send hadmits).1
  · intro hopened hclosed
    refine ⟨Store.send_endField_of_closed hrun.isOpen' hclosed,
      Store.send_endField_of_opened hrun.isOpen fun hnone => ?_⟩
    -- The template has at least those fields open that it had when the query was built.
    have hmore := hrun.follows.openFields
    rw [hnone, hclosed, List.length_nil, Nat.zero_add] at hmore
    exact hopened (List.length_eq_zero_iff.mp hmore.symm)

/-- A template with an open field, and a field that is opened and closed behind it. -/
theorem Reached.continues_template_field :
    let b := Handle.template 0 (.query 0)
    let S := ({} : Session).run [.newTemplate {}, .call b (.startField (some ['f']) .absent)]
    let made := S.store.build 0 (.query 0)
    let rs := [Request.startField (some ['g']) none, .argument (.text ['a']) none, .endField]
    let s := made.2.sendAll b rs
    let t := made.2.sendAll made.1 rs
    S.Reached ∧ made.1 = .query 1 ∧ s.text b = "f:(g:((a) ) ".toList ∧ t.text made.1 = s.text b ∧
      (t.send made.1 (.argument (.text ['b']) none)).1 = .ok (some made.1) ∧
      (t.send made.1 .endField).1 = .error .noOpenField ∧
      (s.send b .endField).1 = .ok (some b) := by
  intro b S made rs s t
  have hS : S.Reached := ⟨_, rfl⟩
  have hb : b ∈ S.handles := by decide +kernel
  have hr : (S.store.template 0).recipe = {} := by decide +kernel
  have hopen : S.store.isLocked b = false := by decide +kernel
  have hrs : ∀ r ∈ rs, r.call.Avoids (b.meets made.1) S.store.shelf ∧ r.call.isBoost = false := by
    simp [rs, Request.call, Call.Avoids, Call.values, Call.isBoost, Value.text]
  have hend : ∀ before, before ++ [.endField] <+: rs → (S.store.query b).openFields = [] ∨
      ((made.2.sendAll made.1 before).query made.1).openFields ≠ [] := by
    -- The one request to close a field is the last one, when the other two have been made.
    intro before hbefore
    rcases before with _ | ⟨r₁, _ | ⟨r₂, _ | ⟨r₃, before⟩⟩⟩
    · simp [rs] at hbefore
    · simp [rs] at hbefore
    · simp only [rs, List.cons_append, List.nil_append, List.cons_prefix_cons] at hbefore
      obtain ⟨rfl, rfl, -⟩ := hbefore
      exact Or.inr (by decide +kernel)
    · simp [rs] at hbefore
  obtain ⟨htext, -, hsame, hmore⟩ := hS.continues_template hb hr hopen rs hrs hend
  have hclosed : (t.query made.1).openFields = [] := by decide +kernel
  obtain ⟨hrefused, hended⟩ := hmore (by decide +kernel) hclosed
  refine ⟨hS, rfl, by decide +kernel, htext, ?_, hrefused, hended⟩
  have hanswer := hsame (.argument (.text ['b']) none)
    (by simp [Request.call, Call.Avoids, Call.values, Value.text]) rfl Request.noConfusion
  exact hanswer

/-- **What is not continued**: a field that the template has open cannot be closed on what was built
    from it.  And a template that is given itself in a group shows what it has become by then, while
    what was built from it shows what the template was before. -/
theorem template_not_continued :
    let b := Handle.template 0 (.query 0)
    let S := ({} : Session).run [.newTemplate {}, .call b (.startField (some ['f']) .absent)]
    let made := S.store.build 0 (.query 0)
    let own := Request.argument (.group .list [.query b]) none
    S.Reached ∧ b ∈ S.handles ∧ (S.store.template 0).recipe = {} ∧ S.store.isLocked b = false ∧
      (made.2.send b .endField).1 = .ok (some b) ∧
      (made.2.send made.1 .endField).1 = .error .noOpenField ∧
      (made.2.send b own).2.text b = "f:((+(f:(() ) ".toList ∧
      (made.2.send made.1 own).2.text made.1 = "f:((+(f:() ) ".toList := by
  intro b S made own
  exact ⟨⟨_, rfl⟩, by decide +kernel, by decide +kernel, by decide +kernel,
    Store.send_endField_of_opened (by decide +kernel) (by decide +kernel),
    Store.send_endField_of_closed (by decide +kernel) (by decide +kernel), by decide +kernel,
    by decide +kernel⟩

end SearchQuery.Session

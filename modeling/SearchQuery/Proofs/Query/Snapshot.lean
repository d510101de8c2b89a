/-
  A query that is written into itself.

  Whoever embeds a query means the text that it has when the call is made.  For another query that
  is its text all the time, but the receiver grows while it is written: a group reads it behind its
  own opening parenthesis and the clauses of the members before, and a field behind `name:(`.

  1. **Fixed terms (`render_fixed_of_quiet`)** — a term in which the text of the receiver is fixed
     gives what the term gives, if no group in it reaches the receiver (`Term.echoes`).
  2. **Echoes (`length_fixed_lt`)** — behind more text, a term that shows the receiver gives more;
     by mutual induction on terms and lists of members.
  3. **Calls (`Reached.embeds_snapshot`)** — each call, made with the receiver and made with a
     separate query of the same text: the same is added for the receiver by itself, and more as soon
     as a group or a field is opened around it.
-/
import SearchQuery.Proofs.Query.Streams
import SearchQuery.Proofs.Value.Replaced

namespace SearchQuery

/-! ## Fixed terms -/

namespace Term

mutual

/-- Whether the receiver stands in a term, as a clause or in a literal that shows it. -/
def shows : Term → Bool
  | .receiver | .depiction _ => true
  | .group members => anyShows members
  | .absent | .literal _ | .embedded _ => false

/-- Whether the receiver stands in one of the terms. -/
def anyShows : List Term → Bool
  | [] => false
  | t :: ts => t.shows || anyShows ts

end

mutual

/-- Whether a literal of a term shows the receiver. -/
def depicts : Term → Bool
  | .depiction _ => true
  | .group members => anyDepicts members
  | .absent | .literal _ | .embedded _ | .receiver => false

/-- Whether a literal of one of the terms shows the receiver. -/
def anyDepicts : List Term → Bool
  | [] => false
  | t :: ts => t.depicts || anyDepicts ts

end

/-- Whether the receiver, with the text `own`, stands in members that are kept. -/
def anyReached (own : Text) : List Term → Bool
  | [] => false
  | t :: ts => (t.survives own && t.shows) || anyReached own ts

/-- Whether a term is a group that reaches the receiver behind its own opening, when that holds the
    text `own` before it. -/
def echoes (own : Text) : Term → Bool
  | .group members => anyReached own members
  | _ => false

mutual

theorem fixed_of_not_shows (own : Text) : ∀ t : Term, t.shows = false → t.fixed own = t
  | .absent, _ | .literal _, _ | .embedded _, _ => by rw [fixed]
  | .receiver, h | .depiction _, h => by simp [shows] at h
  | .group members, h => by
    rw [shows] at h
    rw [fixed, fixedAll_of_not_shows own members h]

theorem fixedAll_of_not_shows (own : Text) : ∀ ts : List Term, anyShows ts = false →
    fixedAll own ts = ts
  | [], _ => rfl
  | t :: ts, h => by
    simp only [anyShows, Bool.or_eq_false_iff] at h
    rw [fixedAll, fixed_of_not_shows own t h.1, fixedAll_of_not_shows own ts h.2]

end

/-- A member with a fixed text is kept wherever the term was while the receiver had that text. -/
theorem survives_fixed (own kept : Text) (t : Term) :
    (t.fixed own).survives kept = t.survives own := by
  cases t <;> rfl

/-- Where no member that is kept shows the receiver, fixing its text changes nothing. -/
theorem renderMembers_fixedAll (own : Text) (m : Modifier) : ∀ (ts : List Term) (now : Text),
    anyReached own ts = false →
    renderMembers own now m (fixedAll own ts) = renderMembers own now m ts
  | [], _, _ => rfl
  | t :: ts, now, h => by
    simp only [anyReached, Bool.or_eq_false_iff, Bool.and_eq_false_iff] at h
    rw [fixedAll, renderMembers, renderMembers, survives_fixed]
    cases hkept : t.survives own with
    | false => simpa using renderMembers_fixedAll own m ts now h.2
    | true =>
      rw [hkept] at h
      rw [fixed_of_not_shows own t (h.1.resolve_left Bool.noConfusion)]
      simpa using renderMembers_fixedAll own m ts (now ++ t.render now m) h.2

/-- **A term that does not echo** gives what it gives with the text of the receiver fixed in it. -/
theorem render_fixed_of_quiet {own : Text} {t : Term} (h : t.echoes own = false) (m : Modifier) :
    (t.fixed own).render own m = t.render own m := by
  cases t with
  | group members =>
    rw [fixed, render, render, renderMembers_fixedAll own m.element members _ h]
  | _ => rfl

/-! ## Echoes -/

/-- The receiver is kept behind any text that is not blank, and other members wherever they are. -/
theorem survives_mono {own kept : Text} (hkept : kept = own ∨ Text.isBlank kept = false) {t : Term}
    (ht : t.depicts = false) (h : t.survives own = true) : t.survives kept = true := by
  rcases hkept with rfl | hkept
  · exact h
  · cases t with
    | receiver => simp [survives, hkept]
    | depiction shows => simp [depicts] at ht
    | _ => exact h

/-- A member that shows the receiver is kept behind a text that is not blank. -/
theorem anyReached_of_anyShows {kept : Text} (hkept : Text.isBlank kept = false) :
    ∀ ts : List Term, anyDepicts ts = false → anyShows ts = true → anyReached kept ts = true
  | [], _, h => by simp [anyShows] at h
  | t :: ts, hts, h => by
    simp only [anyDepicts, Bool.or_eq_false_iff] at hts
    simp only [anyShows, Bool.or_eq_true] at h
    simp only [anyReached, Bool.or_eq_true, Bool.and_eq_true]
    rcases h with h | h
    · refine Or.inl ⟨?_, h⟩
      cases t with
      | receiver => simp [survives, hkept]
      | depiction shows => simp [depicts] at hts
      | group members => rfl
      | _ => simp [shows] at h
    · exact Or.inr (anyReached_of_anyShows hkept ts hts.2 h)

section Length

variable {own : Text}

mutual

/-- **Behind more text** a term gives at least what it gives with the former text fixed in it, and
    more if it shows the receiver. -/
theorem length_fixed : ∀ (t : Term) (now now' : Text) (m : Modifier), t.depicts = false →
    own.length < now.length → Text.isBlank now = false →
    ((t.fixed own).render now' m).length + t.shows.toNat ≤ (t.render now m).length
  | .absent, _, _, _, _, _, _ => by simp [fixed, render, shows]
  | .literal v, _, _, _, _, _, _ => by simp [fixed, render, shows]
  | .embedded u, _, _, _, _, _, _ => by simp [fixed, render, shows]
  | .depiction _, _, _, _, ht, _, _ => by simp [depicts] at ht
  | .receiver, now, now', m, _, hlong, _ => by
    have hlt := length_renderClause_lt m hlong
    simp only [fixed, render, shows, Bool.toNat_true]
    omega
  | .group members, now, now', m, ht, hlong, hnow => by
    rw [depicts] at ht
    -- The group is opened in front of its members, so they are reached behind still more text.
    have hopened : own.length < (now ++ m.mark ++ ['(']).length := by
      rw [List.length_append, List.length_append]
      omega
    have hvisible : Text.isBlank (now ++ m.mark ++ ['(']) = false := by
      simp [Text.isBlank_append, hnow]
    have hmembers := length_fixedAll members now _ now' (now' ++ m.mark ++ ['(']) m.element ht
      (Or.inr hnow) hopened hvisible
    simp only [fixed, render, shows]
    cases hshows : anyShows members with
    | false =>
      have hle := length_renderClause_le m (Nat.le_trans (Nat.le_add_right _ _) hmembers)
      simpa using hle
    | true =>
      rw [anyReached_of_anyShows hnow members ht hshows, Bool.toNat_true] at hmembers
      exact length_renderClause_lt m hmembers

/-- The same of the members of a group, those that are kept. -/
theorem length_fixedAll : ∀ (ts : List Term) (kept now kept' now' : Text) (m : Modifier),
    anyDepicts ts = false → kept = own ∨ Text.isBlank kept = false → own.length < now.length →
    Text.isBlank now = false →
    (renderMembers kept' now' m (fixedAll own ts)).length + (anyReached kept ts).toNat
      ≤ (renderMembers kept now m ts).length
  | [], _, _, _, _, _, _, _, _, _ => by simp [fixedAll, renderMembers, anyReached]
  | t :: ts, kept, now, kept', now', m, hts, hkept, hlong, hnow => by
    simp only [anyDepicts, Bool.or_eq_false_iff] at hts
    have hfirst := length_fixed t now now' m hts.1 hlong hnow
    have hclause : (if t.survives own then (t.fixed own).render now' m else []).length
        + (t.survives kept && t.shows).toNat
        ≤ (if t.survives kept then t.render now m else []).length := by
      cases hsurvives : t.survives kept with
      | true =>
        rw [Bool.true_and, if_pos rfl]
        split
        · exact hfirst
        · rw [List.length_nil]; omega
      | false =>
        -- What is dropped now would have been dropped before.
        have hdropped : t.survives own = false := by
          cases hown : t.survives own with
          | false => rfl
          | true => rw [survives_mono hkept hts.1 hown] at hsurvives; cases hsurvives
        simp [hdropped]
    have hlong' : own.length < (now ++ if t.survives kept then t.render now m else []).length := by
      rw [List.length_append]
      omega
    have hnow' : Text.isBlank (now ++ if t.survives kept then t.render now m else []) = false := by
      simp [Text.isBlank_append, hnow]
    have hrest := length_fixedAll ts kept _ kept'
      (now' ++ if t.survives own then (t.fixed own).render now' m else []) m hts.2 hkept hlong' hnow'
    have hor : ((t.survives kept && t.shows) || anyReached kept ts).toNat
        ≤ (t.survives kept && t.shows).toNat + (anyReached kept ts).toNat := by
      cases (t.survives kept && t.shows) <;> cases anyReached kept ts <;> simp
    rw [fixedAll, renderMembers, renderMembers, anyReached, survives_fixed, List.length_append,
      List.length_append]
    omega

end

/-- **A term that echoes** gives more than it gives with the text of the receiver fixed in it. -/
theorem length_fixed_lt {t : Term} (ht : t.depicts = false) (h : t.echoes own = true)
    (m : Modifier) : ((t.fixed own).render own m).length < (t.render own m).length := by
  cases t with
  | group members =>
    rw [depicts] at ht
    rw [echoes] at h
    have hopened : own.length < (own ++ m.mark ++ ['(']).length := by
      rw [List.length_append, List.length_append, List.length_singleton]
      omega
    have hvisible : Text.isBlank (own ++ m.mark ++ ['(']) = false := by
      have hparenthesis : Text.isBlank ['('] = false := by decide +kernel
      simp [Text.isBlank_append, hparenthesis]
    have hmembers := length_fixedAll members own _ own (own ++ m.mark ++ ['(']) m.element ht
      (Or.inl rfl) hopened hvisible
    rw [h, Bool.toNat_true] at hmembers
    rw [fixed, render, render]
    exact length_renderClause_lt m hmembers
  | _ => simp [echoes] at h

end Length

end Term

/-! ## Calls -/

/-- What a field writes of its value: nothing, if a look at it finds nothing to search for. -/
def Value.enclosed (w : Surroundings) (own : Text) (v : Value) (s : Shelf) : Term :=
  let settled := v.settled s
  let looked := settled.1.isBlank (w.when own) settled.2
  if looked.1 then .absent else (settled.1.term w looked.2).1

section Calls

variable {w : Surroundings} {q : Query} {g : Handle}

/-- A value that is written, and the same value with a query in it that stands in for the
    receiver. -/
theorem Scene.put_replace (hq : q.buffer.Sound) (hg : w.StandsIn q.text g) (v : Value) (s : Shelf)
    (m : Modifier) :
    let r := ((⟨q, s⟩ : Scene).put w v m).query
    let r' := ((⟨q, s.replace w.isReceiver g⟩ : Scene).put w (v.replace w.isReceiver g) m).query
    ((v.term w s).1.echoes q.text = false → r.Matches r') ∧
      ((v.term w s).1.echoes q.text = true → (v.term w s).1.depicts = false →
        r'.text.length < r.text.length) := by
  intro r r'
  have hfixed : r' = q.write m ((v.term w s).1.fixed q.text) := by
    show q.write m ((v.replace w.isReceiver g).term w (s.replace w.isReceiver g)).1 = _
    rw [Value.term_replace hg]
  have hwrote : q.Wrote ((v.term w s).1.render q.text m) r := Query.wrote_write _ q m hq
  have hwrote' := Query.wrote_write ((v.term w s).1.fixed q.text) q m hq
  rw [← hfixed] at hwrote'
  refine ⟨fun hquiet => ?_, fun hechoes hdepicts => ?_⟩
  · rw [Term.render_fixed_of_quiet hquiet] at hwrote'
    have hframe : q.SameFrame r := Query.sameFrame_write _ q m
    have hframe' : q.SameFrame r' := by
      rw [hfixed]
      exact Query.sameFrame_write _ q m
    refine ⟨?_, ?_, ?_, ?_⟩
    · rw [hwrote'.text, hwrote.text]
    · rw [hframe'.modifier, hframe.modifier]
    · rw [hwrote'.succeeded, hwrote.succeeded]
    · rw [hframe'.openFields, hframe.openFields]
  · have hlt := Term.length_fixed_lt hdepicts hechoes m
    rw [hwrote'.text, hwrote.text, List.length_append, List.length_append]
    omega

/-- A term that shows the receiver gives, in a field that was opened for it, more than it gives with
    the former text fixed in it. -/
theorem Query.length_writeField_lt (hq : q.buffer.Sound) {t : Term} (hshows : t.shows = true)
    (hdepicts : t.depicts = false) (name : Text) (m : Modifier) (factor : Option Number) :
    (q.writeField name m (t.fixed q.text) factor).text.length
      < (q.writeField name m t factor).text.length := by
  have hopened : q.text.length < (q.text ++ renderOpening m name).length := by
    rw [renderOpening, List.length_append, List.length_append, List.length_append]
    have hmark : [':', '('].length = 2 := rfl
    omega
  have hvisible : Text.isBlank (q.text ++ renderOpening m name) = false := by
    rw [← (wrote_openField hq name m).text]
    exact isBlank_text_openField hq name m
  have hinner := Term.length_fixed t _ (q.text ++ renderOpening m name) m.nested hdepicts hopened
    hvisible
  rw [hshows, Bool.toNat_true] at hinner
  have hlong : 3 ≤ (t.render (q.text ++ renderOpening m name) m.nested).length := by
    have hne : t.render (q.text ++ renderOpening m name) m.nested ≠ [] :=
      List.length_pos_iff.mp (by omega)
    cases t with
    | receiver => exact three_le_length_renderClause hne
    | group members => exact three_le_length_renderClause hne
    | depiction shows => simp [Term.depicts] at hdepicts
    | _ => simp [Term.shows] at hshows
  have hfield := length_renderField_lt hlong hinner m name factor
  rw [(wrote_writeField hq name m _ factor).text, (wrote_writeField hq name m t factor).text,
    List.length_append, List.length_append]
  omega

/-- A field that is written, and the same field with a query in its value that stands in for the
    receiver. -/
theorem Scene.putField_replace (hq : q.buffer.Sound) (hg : w.StandsIn q.text g) (v : Value)
    (s : Shelf) (name : Option Text) (m : Modifier) (factor : Option Number) :
    let t := v.enclosed w q.text s
    let v' := v.replace w.isReceiver g
    let s' := s.replace w.isReceiver g
    let r := ((⟨q, (v.settled s).2⟩ : Scene).putField w name (v.settled s).1 m factor).query
    let r' := ((⟨q, (v'.settled s').2⟩ : Scene).putField w name (v'.settled s').1 m factor).query
    (Text.isMissing name = true ∨ t.shows = false → r' = r) ∧
      (Text.isMissing name = false → t.shows = true → t.depicts = false →
        r'.text.length < r.text.length) := by
  intro t v' s' r r'
  have hr : r = _ := Scene.query_putField ⟨q, (v.settled s).2⟩ w name (v.settled s).1 m factor
  have hr' : r' = _ := Scene.query_putField ⟨q, (v'.settled s').2⟩ w name (v'.settled s').1 m factor
  have hlooked := Value.isBlank_replace (w.when q.text) w.isReceiver hg.query (v.settled s).1 (v.settled s).2
  rw [Value.through_when hg] at hlooked
  simp only [v', s', Value.settled_replace, hlooked, Value.term_replace hg] at hr'
  cases name with
  | none =>
    have hsame : r' = r := hr'.trans hr.symm
    exact ⟨fun _ => hsame, fun hname => absurd hname Bool.noConfusion⟩
  | some name =>
    cases hblank : ((v.settled s).1.isBlank (w.when q.text) (v.settled s).2).1 with
    | true =>
      -- The look finds nothing to search for in either value, so neither field is opened.
      have ht : t = .absent := if_pos hblank
      have hsame : r' = r := by
        rw [hr', hr]
        simp [Query.putField, hblank]
      rw [ht]
      exact ⟨fun _ => hsame, fun _ hshows => absurd hshows Bool.noConfusion⟩
    | false =>
      have ht : t = ((v.settled s).1.term w
          ((v.settled s).1.isBlank (w.when q.text) (v.settled s).2).2).1 :=
        if_neg (by rw [hblank]; exact Bool.false_ne_true)
      rw [← ht, hblank] at hr hr'
      cases hname : Text.isBlank name with
      | true =>
        have hsame : r' = r := by
          rw [hr', hr]
          simp [Query.putField, hname]
        exact ⟨fun _ => hsame, fun hnamed => absurd (hname.symm.trans hnamed) Bool.noConfusion⟩
      | false =>
        have hwritten : r = q.writeField name m t factor := by
          rw [hr]
          simp [Query.putField, hname]
        have hwritten' : r' = q.writeField name m (t.fixed q.text) factor := by
          rw [hr']
          simp [Query.putField, hname]
        rw [hwritten, hwritten']
        refine ⟨?_, fun _ hshows hdepicts =>
          Query.length_writeField_lt hq hshows hdepicts name m factor⟩
        rintro (hmissing | hshows)
        · exact absurd (hname.symm.trans hmissing) Bool.noConfusion
        · rw [Term.fixed_of_not_shows q.text t hshows]

/-- A value that is added, and the same value with a query in it that stands in for the receiver. -/
theorem Call.run_argument_replace (hq : q.buffer.Sound) (hg : w.StandsIn q.text g) (s : Shelf)
    (M : ModifierArg) (v : Value) :
    let t := (v.term w s).1
    let r := (Call.argument v M).run w ⟨q, s⟩
    let r' := (Call.argument (v.replace w.isReceiver g) M).run w ⟨q, s.replace w.isReceiver g⟩
    r'.1 = r.1 ∧ (t.echoes q.text = false → r.2.query.Matches r'.2.query) ∧
      (t.echoes q.text = true → t.depicts = false → r.1 = .ok () →
        r'.2.query.text.length < r.2.query.text.length) := by
  intro t r r'
  have hr : r = _ := run_argument w ⟨q, s⟩ M v
  have hr' : r' = _ := run_argument w ⟨q, s.replace w.isReceiver g⟩ M (v.replace w.isReceiver g)
  rw [Value.isGroup_replace] at hr'
  rw [hr, hr']
  cases M.resolve q.modifier v.isGroup with
  | error e => exact ⟨rfl, fun _ => ⟨rfl, rfl, rfl, rfl⟩, fun _ _ h => nomatch h⟩
  | ok m =>
    obtain ⟨hquiet, hechoes⟩ := Scene.put_replace hq hg v s m
    exact ⟨rfl, hquiet, fun ht hdepicts _ => hechoes ht hdepicts⟩

/-- A query that is added, or the one that stands in for it. -/
theorem Call.run_subquery_replace (hq : q.buffer.Sound) (hg : w.StandsIn q.text g) (s : Shelf)
    (M : ModifierArg) (query : Option Handle) :
    let r := (Call.subquery query M).run w ⟨q, s⟩
    let r' := (Call.subquery (query.map fun h => if w.isReceiver h then g else h) M).run w ⟨q, s⟩
    r'.1 = r.1 ∧ r.2.query.Matches r'.2.query := by
  intro r r'
  have hr : r = _ := run_subquery w ⟨q, s⟩ M query
  have hr' : r' = _ :=
    run_subquery w ⟨q, s⟩ M (query.map fun h => if w.isReceiver h then g else h)
  rw [hr, hr']
  cases M.resolve q.modifier false with
  | error e => exact ⟨rfl, rfl, rfl, rfl, rfl⟩
  | ok m =>
    refine ⟨rfl, ?_⟩
    cases query with
    | none => exact ⟨rfl, rfl, rfl, rfl⟩
    | some h =>
      -- A query by itself is no group, so it cannot be reached behind an opening.
      have hquiet : ((Value.query h).term w s).1.echoes q.text = false := by
        cases hh : w.isReceiver h <;> simp [Value.term, Value.termWith, hh, Term.echoes]
      exact (Scene.put_replace hq hg (.query h) s m).1 hquiet

/-- A field that is added, and the same field with a query in its value that stands in for the
    receiver. -/
theorem Call.run_field_replace (hq : q.buffer.Sound) (hg : w.StandsIn q.text g) (s : Shelf)
    (M : ModifierArg) (name : Option Text) (v : Value) (factor : Option Number)
    (allMembers : Option Bool) :
    let t := v.enclosed w q.text s
    let r := (Call.field name v M factor allMembers).run w ⟨q, s⟩
    let r' := (Call.field name (v.replace w.isReceiver g) M factor allMembers).run w
      ⟨q, s.replace w.isReceiver g⟩
    r'.1 = r.1 ∧ (Text.isMissing name = true ∨ t.shows = false → r'.2.query = r.2.query) ∧
      (Text.isMissing name = false → t.shows = true → t.depicts = false → r.1 = .ok () →
        r'.2.query.text.length < r.2.query.text.length) := by
  intro t r r'
  have hr : r = _ := run_field w ⟨q, s⟩ M name v factor allMembers
  have hr' : r' = _ := run_field w ⟨q, s.replace w.isReceiver g⟩ M name (v.replace w.isReceiver g)
    factor allMembers
  rw [Value.isGroup_replace] at hr'
  rw [hr, hr']
  cases Boost.checkGiven factor with
  | error e => exact ⟨rfl, fun _ => rfl, fun _ _ _ h => nomatch h⟩
  | ok =>
    cases M.resolveField q.modifier v.isGroup allMembers with
    | error e => exact ⟨rfl, fun _ => rfl, fun _ _ _ h => nomatch h⟩
    | ok m =>
      obtain ⟨hsame, hless⟩ := Scene.putField_replace hq hg v s name m factor
      exact ⟨rfl, hsame, fun hname hshows hdepicts _ => hless hname hshows hdepicts⟩

end Calls

/-- **The receiver and a snapshot of it.**  For every query `q` that can be reached, whatever is
    around it, and every separate query `g` that has its text: a call with `g` in each place where
    its value holds `q` is refused like the call itself, and

    1. `q` by itself is written like `g`;
    2. a value is written alike unless a group in it reaches `q` behind its own opening, and then
       more is written for `q`;
    3. a field is written alike unless `q` stands in its value, however deep, and then more is
       written for `q`. -/
theorem Query.Reached.embeds_snapshot {q : Query} (hq : q.Reached) {w : Surroundings} {g : Handle}
    (hg : w.StandsIn q.text g) (s : Shelf) (M : ModifierArg) :
    (∀ query : Option Handle,
      let r := (Call.subquery query M).run w ⟨q, s⟩
      let r' := (Call.subquery (query.map fun h => if w.isReceiver h then g else h) M).run w ⟨q, s⟩
      r'.1 = r.1 ∧ r.2.query.Matches r'.2.query) ∧
    (∀ v : Value,
      let t := (v.term w s).1
      let r := (Call.argument v M).run w ⟨q, s⟩
      let r' := (Call.argument (v.replace w.isReceiver g) M).run w ⟨q, s.replace w.isReceiver g⟩
      r'.1 = r.1 ∧ (t.echoes q.text = false → r.2.query.Matches r'.2.query) ∧
        (t.echoes q.text = true → t.depicts = false → r.1 = .ok () →
          r'.2.query.text.length < r.2.query.text.length)) ∧
    (∀ (name : Option Text) (v : Value) (factor : Option Number) (allMembers : Option Bool),
      let t := v.enclosed w q.text s
      let r := (Call.field name v M factor allMembers).run w ⟨q, s⟩
      let r' := (Call.field name (v.replace w.isReceiver g) M factor allMembers).run w
        ⟨q, s.replace w.isReceiver g⟩
      r'.1 = r.1 ∧ (Text.isMissing name = true ∨ t.shows = false → r'.2.query = r.2.query) ∧
        (Text.isMissing name = false → t.shows = true → t.depicts = false → r.1 = .ok () →
          r'.2.query.text.length < r.2.query.text.length)) :=
  ⟨Call.run_subquery_replace hq.sound hg s M, Call.run_argument_replace hq.sound hg s M,
    Call.run_field_replace hq.sound hg s M⟩

/-- The same of a query beside a text in a group: more is written for the receiver than for a
    separate query.  By itself it is written like that query. -/
theorem Query.Reached.embeds_snapshot_group :
    let q := Query.new none "(x) ".toList
    let w : Surroundings := ⟨⟨fun _ => q.text, fun _ => {}⟩, (· == .query 0)⟩
    let after (c : Call) := (c.run w ⟨q, []⟩).2.query
    let members (h : Handle) : Value := .group .list [.text ['a'], .query h]
    let argument (h : Handle) := Call.argument (members h) .absent
    let field (h : Handle) := Call.field (some ['f']) (members h) .absent none none
    q.Reached ∧ w.StandsIn q.text (.query 1) ∧
      (after (.subquery (some (.query 0)) .absent)).Matches
        (after (.subquery (some (.query 1)) .absent)) ∧
      (after (argument (.query 1))).text.length < (after (argument (.query 0))).text.length ∧
      (after (field (.query 1))).text.length < (after (field (.query 0))).text.length := by
  intro q w after members argument field
  have hq : q.Reached := ⟨none, "(x) ".toList, [], rfl⟩
  have hg : w.StandsIn q.text (.query 1) := ⟨rfl, by decide, rfl, fun _ _ => rfl⟩
  obtain ⟨hsubquery, hargument, hfield⟩ := hq.embeds_snapshot hg [] .absent
  refine ⟨hq, hg, (hsubquery (some (.query 0))).2, ?_, ?_⟩
  · exact (hargument (members (.query 0))).2.2 (by decide +kernel) (by decide +kernel) rfl
  · exact (hfield (some ['f']) (members (.query 0)) none none).2.2 rfl (by decide +kernel)
      (by decide +kernel) (by decide +kernel)

/-- **The receiver in a group.**  The group and the field are opened before the text of the receiver
    is read, so it is written with their openings in it, and what is written is not balanced; a
    separate query of the same text is written as it is. -/
theorem Query.receiver_behind_opening :
    let q := Query.new none "(x) ".toList
    let w : Surroundings := ⟨⟨fun _ => q.text, fun _ => {}⟩, (· == .query 0)⟩
    let after (c : Call) := (c.run w ⟨q, []⟩).2.query.text
    let argument (h : Handle) := Call.argument (.group .list [.query h]) .absent
    let field (h : Handle) := Call.field (some ['f']) (.query h) .absent none none
    after (argument (.query 0)) = "(x) (+((x) () ) ".toList ∧
      after (argument (.query 1)) = "(x) (+((x) ) ) ".toList ∧
      after (field (.query 0)) = "(x) f:(((x) f:() ) ".toList ∧
      after (field (.query 1)) = "(x) f:(((x) ) ) ".toList := by
  decide +kernel

end SearchQuery

/-
  What of a value can be seen in a query.

  Absent values, blank texts and groups of nothing else leave no trace; what a scalar is does not
  show, only its text; and neither does the shape of a group.  `Value.norm` takes away all that does
  not show: what stays is a tree of texts that are not blank (`Norm.Proper`).

  1. **Plain values** — no query and no stream stands in them, so their text depends on nothing
     around (`written_eq`).
  2. **Norms (`render_eq`)** — the rendering of a plain value is that of its norm.
-/
import SearchQuery.Proofs.Query.Rendering
import SearchQuery.Proofs.Value.Agreement

namespace SearchQuery

/-- What stays of a value: a text, or what stays of the members of a group. -/
inductive Norm where
  | text (t : Text)
  | group (members : List Norm)
  deriving Repr

namespace Norm

mutual

/-- The clause of a norm. -/
def render (m : Modifier) : Norm → Text
  | .text t => renderLiteral m t
  | .group members => renderClause m (renderAll m.element members)

/-- The clauses of norms, one after the other. -/
def renderAll (m : Modifier) : List Norm → Text
  | [] => []
  | n :: ns => n.render m ++ renderAll m ns

end

/-- No text in the norm is blank, and no group is empty. -/
inductive Proper : Norm → Prop
  | text {t : Text} (ht : Text.isBlank t = false) : Proper (.text t)
  | group {members : List Norm} (hne : members ≠ []) (hall : ∀ n ∈ members, Proper n) :
    Proper (.group members)

end Norm

/-! ## Plain values -/

/-- No query stands in a value, and no stream is read when it is written. -/
structure Value.Plain (v : Value) : Prop where
  noStream : v.streamless = true
  noQuery : ∀ p, v.mentions p = false

namespace Value

theorem allStreamless_eq (vs : List Value) : allStreamless vs = vs.all streamless := by
  induction vs with
  | nil => rfl
  | cons v vs ih => rw [allStreamless, ih, List.all_cons]

theorem Plain.members {shape : Shape} {members : List Value}
    (h : (Value.group shape members).Plain) : ∀ v ∈ members, v.Plain := by
  intro v hv
  have hstreamless := h.noStream
  rw [streamless, allStreamless_eq, List.all_eq_true] at hstreamless
  refine ⟨hstreamless v hv, fun p => ?_⟩
  have hqueryless := h.noQuery p
  rw [mentions, anyMentions_eq, List.any_eq_false] at hqueryless
  simpa using hqueryless v hv

theorem not_plain_query {h : Handle} : ¬ (Value.query h).Plain := by
  intro hq
  exact Bool.noConfusion (hq.noQuery fun _ => true)

theorem not_plain_stream {place : Nat} : ¬ (Value.stream place).Plain := by
  intro hs
  exact Bool.noConfusion hs.noStream

/-- A value in which no query stands has one text, whatever the queries around are. -/
theorem written_eq (qs qs' : Queries) {v : Value} (hv : v.Plain) :
    v.written qs = v.written qs' := by
  have hagree : qs'.AgreeBut (fun _ => true) qs :=
    ⟨fun _ h => absurd h Bool.noConfusion, fun _ h => absurd h Bool.noConfusion⟩
  exact written_congr hagree (hv.noQuery _)

/-! ## Norms -/

/-- The text of a value in which no query stands. -/
def ownText (v : Value) : Text := v.written ⟨fun _ => [], fun _ => {}⟩

mutual

/-- What stays of a value, if anything does. -/
def norm : Value → Option Norm
  | .group _ members =>
    match normAll members with
    | [] => none
    | n :: ns => some (.group (n :: ns))
  | v => if v.isAbsent || Text.isBlank v.ownText then none else some (.text v.ownText)

/-- What stays of values. -/
def normAll : List Value → List Norm
  | [] => []
  | v :: vs =>
    match v.norm with
    | none => normAll vs
    | some n => n :: normAll vs

end

theorem normAll_eq (vs : List Value) : normAll vs = vs.filterMap norm := by
  induction vs with
  | nil => rfl
  | cons v vs ih =>
    rw [normAll, ih]
    cases h : v.norm with
    | none => rw [List.filterMap_cons_none h]
    | some n => rw [List.filterMap_cons_some h]

theorem norm_of_isLiteral {v : Value} (hv : v.isLiteral = true) :
    v.norm = if Text.isBlank v.ownText then none else some (.text v.ownText) := by
  have habsent := isAbsent_of_isLiteral hv
  rw [norm.eq_def]
  split
  · cases hv
  · simp [habsent]

theorem proper_literal {v : Value} (hv : v.isLiteral = true) {n : Norm} (h : v.norm = some n) :
    n.Proper := by
  rw [norm_of_isLiteral hv] at h
  cases hblank : Text.isBlank v.ownText with
  | true => simp [hblank] at h
  | false =>
    obtain rfl : Norm.text v.ownText = n := by simpa [hblank] using h
    exact .text hblank

mutual

/-- What stays of a value holds no blank text and no empty group. -/
theorem proper_norm : ∀ (v : Value) (n : Norm), v.Plain → v.norm = some n → n.Proper
  | .scalar c, n, _, h => by
    by_cases hc : c = .null
    · subst hc; cases h
    · exact proper_literal (isLiteral_scalar hc) h
  | .byteArray bytes, n, _, h => proper_literal rfl h
  | .mapping entries, n, _, h => proper_literal rfl h
  | .query g, n, hv, _ => absurd hv not_plain_query
  | .stream place, n, hv, _ => absurd hv not_plain_stream
  | .group shape members, n, hv, h => by
    have hall := proper_normAll members hv.members
    rw [norm] at h
    cases hs : normAll members with
    | nil => rw [hs] at h; cases h
    | cons k ks =>
      rw [hs] at h hall
      cases h
      exact .group (List.cons_ne_nil k ks) hall

theorem proper_normAll : ∀ vs : List Value, (∀ v ∈ vs, v.Plain) → ∀ n ∈ normAll vs, n.Proper
  | [], _, n, hn => absurd hn List.not_mem_nil
  | v :: vs, hvs, n, hn => by
    have hrest := proper_normAll vs fun u hu => hvs u (List.mem_cons_of_mem v hu)
    rw [normAll] at hn
    cases hv : v.norm with
    | none => rw [hv] at hn; exact hrest n hn
    | some k =>
      rw [hv] at hn
      rcases List.mem_cons.mp hn with rfl | hn
      · exact proper_norm v _ (hvs v List.mem_cons_self) hv
      · exact hrest n hn

end

/-! ## The rendering of a norm -/

theorem render_literal_eq {v : Value} (hv : v.isLiteral = true) (hplain : v.Plain) (qs : Queries)
    (m : Modifier) : v.render qs m = (v.norm.map (Norm.render m)).getD [] := by
  have htext : v.written qs = v.ownText := written_eq qs _ hplain
  rw [render_of_isLiteral hv, norm_of_isLiteral hv, htext]
  cases hblank : Text.isBlank v.ownText with
  | true => simp [renderLiteral, hblank]
  | false => simp [Norm.render]

/-- A member that is not kept would give nothing anyway. -/
theorem render_of_not_kept {v : Value} (hplain : v.Plain) {qs : Queries}
    (hkept : v.kept qs = false) (m : Modifier) : v.render qs m = [] := by
  by_cases hv : v.isLiteral = true
  · have hblank : Text.isBlank (v.written qs) = true := by
      simpa [kept, isGroup_of_isLiteral hv, isAbsent_of_isLiteral hv] using hkept
    rw [render_of_isLiteral hv, renderLiteral, if_pos hblank]
  · unfold isLiteral at hv
    split at hv
    · rfl
    · exact absurd hkept (by simp [kept, isGroup])
    · exact absurd hkept (by simp [kept, isGroup])
    · exact absurd hplain not_plain_query
    · exact absurd rfl hv

mutual

/-- **Only the norm shows** in the rendering of a plain value. -/
theorem render_eq (qs : Queries) : ∀ (v : Value) (m : Modifier), v.Plain →
    v.render qs m = (v.norm.map (Norm.render m)).getD []
  | .scalar c, m, hv => by
    by_cases hc : c = .null
    · subst hc; rfl
    · exact render_literal_eq (isLiteral_scalar hc) hv qs m
  | .byteArray bytes, m, hv => render_literal_eq rfl hv qs m
  | .mapping entries, m, hv => render_literal_eq rfl hv qs m
  | .query g, m, hv => absurd hv not_plain_query
  | .stream place, m, hv => absurd hv not_plain_stream
  | .group shape members, m, hv => by
    -- If no member stays, the members give nothing, and neither does the group.
    have hall := renderAll_eq qs members m.element hv.members
    rw [render, hall, norm]
    cases normAll members with
    | nil => rfl
    | cons n ns => rfl

theorem renderAll_eq (qs : Queries) : ∀ (vs : List Value) (m : Modifier), (∀ v ∈ vs, v.Plain) →
    renderAll qs m vs = Norm.renderAll m (normAll vs)
  | [], m, _ => rfl
  | v :: vs, m, hvs => by
    have hv := hvs v List.mem_cons_self
    have hrest := renderAll_eq qs vs m fun u hu => hvs u (List.mem_cons_of_mem v hu)
    have hfirst : (if v.kept qs then v.render qs m else [])
        = (v.norm.map (Norm.render m)).getD [] := by
      rw [← render_eq qs v m hv]
      cases hkept : v.kept qs with
      | true => rfl
      | false => exact (render_of_not_kept hv hkept m).symm
    rw [renderAll, hfirst, hrest, normAll]
    cases v.norm with
    | none => rfl
    | some n => rfl

end

end Value
end SearchQuery

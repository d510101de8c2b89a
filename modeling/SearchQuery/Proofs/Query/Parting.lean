/-
  Where a zero shows its form.

  Equal modifiers are the same up to the form of a zero as their fuzziness.  That form shows wherever a
  literal is written, and nowhere else.

  1. **Parted texts (`Text.PartedIf`)** — two texts of which neither begins the other stay different,
     whatever is written in front of both and behind each of them.
  2. **Literals (`partedIf_renderLiteral`)** — behind a fuzziness stands a character that is in no
     number, so two forms part the clauses even where one form begins the other.
  3. **Terms (`Term.partedIf_render`)** — the clauses of a term are parted if a literal is written for it
     (`Term.worded`), and are the same otherwise.  The receiver may stand in the term: up to the first
     literal it shows the same under both modifiers, and behind it nothing counts any more.
-/
import SearchQuery.Proofs.Modifier.Equality
import SearchQuery.Proofs.Query.Skipping

namespace SearchQuery

/-! ## Parted texts -/

namespace Text

variable {apart apart' : Bool} {s t u v : Text}

/-- Neither of two texts begins the other. -/
def Parted (s t : Text) : Prop := ¬s <+: t ∧ ¬t <+: s

instance : Decidable (Parted s t) := inferInstanceAs (Decidable (_ ∧ _))

theorem Parted.append (h : Parted s t) (u v : Text) : Parted (s ++ u) (t ++ v) := by
  constructor
  · intro hst
    have hs : s <+: t ++ v := (List.prefix_append s u).trans hst
    rcases List.prefix_or_prefix_of_prefix hs (List.prefix_append t v) with hst | hts
    · exact h.1 hst
    · exact h.2 hts
  · intro hts
    have ht : t <+: s ++ u := (List.prefix_append t v).trans hts
    rcases List.prefix_or_prefix_of_prefix ht (List.prefix_append s u) with hts | hst
    · exact h.2 hts
    · exact h.1 hst

theorem Parted.behind (h : Parted s t) (u : Text) : Parted (u ++ s) (u ++ t) := by
  rw [Parted, List.prefix_append_right_inj, List.prefix_append_right_inj]
  exact h

/-- Two texts are parted, or they are the same. -/
def PartedIf (apart : Bool) (s t : Text) : Prop := if apart then Parted s t else s = t

theorem PartedIf.of_eq (h : s = t) : PartedIf false s t := h

theorem PartedIf.eq_iff (h : PartedIf apart s t) : s = t ↔ apart = false := by
  cases apart with
  | false => exact ⟨fun _ => rfl, fun _ => h⟩
  | true =>
    constructor
    · rintro rfl
      exact absurd (List.prefix_refl s) h.1
    · intro hfalse
      cases hfalse

/-- Whatever is written behind texts that are parted. -/
theorem PartedIf.append (h : PartedIf apart s t) (h' : apart = false → PartedIf apart' u v) :
    PartedIf (apart || apart') (s ++ u) (t ++ v) := by
  cases apart with
  | true => exact Parted.append h u v
  | false =>
    obtain rfl : s = t := h
    cases apart' with
    | true => exact Parted.behind (h' rfl) s
    | false =>
      obtain rfl : u = v := h' rfl
      rfl

theorem PartedIf.behind (h : PartedIf apart s t) (u : Text) : PartedIf apart (u ++ s) (u ++ t) := by
  simpa using PartedIf.append (.of_eq rfl) fun _ => h

theorem PartedIf.isEmpty (h : PartedIf apart s t) : s.isEmpty = t.isEmpty := by
  cases apart with
  | false => rw [show s = t from h]
  | true =>
    -- the empty text begins every other
    have hs : s ≠ [] := by
      rintro rfl
      exact h.1 List.nil_prefix
    have ht : t ≠ [] := by
      rintro rfl
      exact h.2 List.nil_prefix
    rw [List.isEmpty_eq_false_iff.mpr hs, List.isEmpty_eq_false_iff.mpr ht]

/-- Something else in the place of an empty text. -/
theorem PartedIf.orElse (h : PartedIf apart s t) (h' : PartedIf apart u v) (z : Text) :
    PartedIf apart (if s.isEmpty then z else u) (if t.isEmpty then z else v) := by
  rw [h.isEmpty]
  cases ht : t.isEmpty with
  | false => exact h'
  | true =>
    -- nothing is parted from the empty text
    have hs : s.isEmpty = true := h.isEmpty.trans ht
    have hsame : s = t := by rw [List.isEmpty_iff.mp hs, List.isEmpty_iff.mp ht]
    rw [h.eq_iff.mp hsame]
    exact .of_eq rfl

end Text

/-! ## Literals -/

namespace Number

/-- The forms of a zero. -/
def zeroForms : List Number := [.flag false, .int 0, .double (.finite false 0), .double (.finite true 0)]

theorem mem_zeroForms {f : Number} (hf : f.isZero) : f ∈ zeroForms := by
  rcases isZero_iff.mp hf with rfl | rfl | ⟨s, rfl⟩
  · simp [zeroForms]
  · simp [zeroForms]
  · cases s <;> simp [zeroForms]

/-- Zeros in two forms are parted by a character that is in no number. -/
theorem parted_text {f g : Number} (hf : f.isZero) (hg : g.isZero) (hne : f ≠ g) {c : Char}
    (hc : c = ' ' ∨ c = ')') : Text.Parted (f.text ++ [c]) (g.text ++ [c]) := by
  have hforms : ∀ f ∈ zeroForms, ∀ g ∈ zeroForms, f ≠ g →
      Text.Parted (f.text ++ [' ']) (g.text ++ [' ']) ∧
        Text.Parted (f.text ++ [')']) (g.text ++ [')']) := by
    decide +kernel
  obtain ⟨hblank, hclose⟩ := hforms f (mem_zeroForms hf) g (mem_zeroForms hg) hne
  rcases hc with rfl | rfl
  · exact hblank
  · exact hclose

end Number

namespace Modifier

variable {m n : Modifier}

/-- Whether the fuzzinesses of two modifiers differ, be it in their form only. -/
def differ (m n : Modifier) : Bool := m.fuzziness ≠ n.fuzziness

theorem differ_self (m : Modifier) : m.differ m = false := by simp [differ]

/-- The alternatives for a literal end in the fuzziness. -/
theorem exists_body (h : m.Twins n) {f g : Number} (hf : m.fuzziness = some f)
    (hg : n.fuzziness = some g) (v : Text) : ∃ u, m.body v = u ++ f.text ∧ n.body v = u ++ g.text := by
  rw [body, body, alternatives_eq, alternatives_eq, hf, hg, h.wildcarded]
  cases n.wildcarded with
  | false => exact ⟨Text.escapeAll v ++ ['~'], by simp [Text.join], by simp [Text.join]⟩
  | true =>
    exact ⟨phrase v ++ ['^', '2', ' '] ++ Text.escapeAll v ++ ['*', ' '] ++ Text.escapeAll v ++ ['~'],
      by simp [Text.join], by simp [Text.join]⟩

end Modifier

/-- A literal is written differently as soon as the fuzzinesses differ. -/
theorem partedIf_renderLiteral {m n : Modifier} (h : m.Twins n) {v : Text}
    (hv : Text.isBlank v = false) :
    Text.PartedIf (m.differ n) (renderLiteral m v) (renderLiteral n v) := by
  rcases Decidable.em (m.fuzziness = n.fuzziness) with hsame | hother
  · rw [h.eq_of_fuzziness hsame, Modifier.differ_self]
    exact .of_eq rfl
  · obtain ⟨f, g, hf, hg, hzf, hzg⟩ := h.fuzziness.resolve_left hother
    have hne : f ≠ g := fun hfg => hother (by rw [hf, hg, hfg])
    obtain ⟨u, hu, hu'⟩ := Modifier.exists_body h hf hg v
    have hsplits : m.splits v = n.splits v := by rw [Modifier.splits, Modifier.splits, h.split]
    -- behind the fuzziness come the tokens or the end of the clause
    obtain ⟨c, hc, ⟨r, hr⟩, r', hr'⟩ : ∃ c, (c = ' ' ∨ c = ')') ∧
        (∃ r, (if m.splits v then renderTokens m v else []) ++ [')', ' '] = [c] ++ r) ∧
        ∃ r', (if n.splits v then renderTokens n v else []) ++ [')', ' '] = [c] ++ r' := by
      rw [hsplits]
      cases n.splits v with
      | false => exact ⟨')', .inr rfl, ⟨_, rfl⟩, ⟨_, rfl⟩⟩
      | true => exact ⟨' ', .inl rfl, ⟨_, rfl⟩, ⟨_, rfl⟩⟩
    have hparted : Text.Parted (m.mark ++ ['('] ++ u ++ (f.text ++ [c] ++ r))
        (m.mark ++ ['('] ++ u ++ (g.text ++ [c] ++ r')) :=
      ((Number.parted_text hzf hzg hne hc).append r r').behind _
    have hdiffer : m.differ n = true := by simp [Modifier.differ, hother]
    rw [hdiffer, renderLiteral, renderLiteral, hv, hu, hu', ← h.mark]
    simpa [Text.PartedIf, List.append_assoc, hr, hr'] using hparted

/-! ## Clauses -/

namespace Term

mutual

/-- Whether a literal is written for a term, whatever else is. -/
def worded : Term → Bool
  | .literal t => !Text.isBlank t
  | .depiction _ => true
  | .group members => anyWorded members
  | .absent | .embedded _ | .receiver => false

/-- Whether a literal is written for one of the terms. -/
def anyWorded : List Term → Bool
  | [] => false
  | t :: ts => t.worded || anyWorded ts

end

mutual

/-- What shows the receiver in a term is never blank. -/
def Legible : Term → Prop
  | .depiction shows => ∀ own, Text.isBlank (shows own) = false
  | .group members => AllLegible members
  | .absent | .literal _ | .embedded _ | .receiver => True

/-- The same of each of the terms. -/
def AllLegible : List Term → Prop
  | [] => True
  | t :: ts => t.Legible ∧ AllLegible ts

end

/-- A member with a literal that is written is kept. -/
theorem survives_of_worded {t : Term} (ht : t.Legible) (h : t.worded = true) (kept : Text) :
    t.survives kept = true := by
  cases t with
  | literal v => exact h
  | depiction shows => simp [survives, ht kept]
  | group members => rfl
  | absent => cases h
  | embedded t => cases h
  | receiver => cases h

end Term

theorem partedIf_renderClause {m n : Modifier} (h : m.Twins n) {apart : Bool} {s t : Text}
    (hst : Text.PartedIf apart s t) :
    Text.PartedIf apart (renderClause m s) (renderClause n t) := by
  have hbody := (hst.behind (m.mark ++ ['('])).append fun _ => .of_eq (s := [')', ' ']) rfl
  rw [renderClause, renderClause, ← h.mark]
  exact hst.orElse (by simpa using hbody) []

namespace Term

mutual

/-- **The clauses of a term** under two equal modifiers. -/
theorem partedIf_render : ∀ (t : Term) (own : Text) (m n : Modifier), t.Legible → m.Twins n →
    Text.PartedIf (t.worded && m.differ n) (t.render own m) (t.render own n)
  | .absent, own, m, n, _, _ => by
    simp only [worded, Bool.false_and, render]
    exact .of_eq rfl
  | .literal v, own, m, n, _, h => by
    simp only [worded, render]
    cases hv : Text.isBlank v with
    | true =>
      rw [renderLiteral, renderLiteral, hv]
      exact .of_eq rfl
    | false => simpa using partedIf_renderLiteral h hv
  | .depiction shows, own, m, n, ht, h => by
    simp only [worded, render, Bool.true_and]
    exact partedIf_renderLiteral h (ht own)
  | .embedded t, own, m, n, _, h => by
    simp only [worded, Bool.false_and, render]
    exact partedIf_renderClause h (.of_eq rfl)
  | .receiver, own, m, n, _, h => by
    simp only [worded, Bool.false_and, render]
    exact partedIf_renderClause h (.of_eq rfl)
  | .group members, own, m, n, ht, h => by
    simp only [worded, render]
    rw [← h.mark]
    exact partedIf_renderClause h
      (partedIf_renderMembers members own _ m.element n.element ht h.element)

theorem partedIf_renderMembers : ∀ (ts : List Term) (kept own : Text) (m n : Modifier),
    AllLegible ts → m.Twins n →
    Text.PartedIf (anyWorded ts && m.differ n) (renderMembers kept own m ts)
      (renderMembers kept own n ts)
  | [], kept, own, m, n, _, _ => .of_eq rfl
  | t :: ts, kept, own, m, n, ht, h => by
    simp only [anyWorded, renderMembers, Bool.and_or_distrib_right]
    -- the members behind are reached with the same text unless the first is parted already
    have hrest : ∀ u u' : Text, u = u' → Text.PartedIf (anyWorded ts && m.differ n)
        (renderMembers kept (own ++ u) m ts) (renderMembers kept (own ++ u') n ts) := by
      rintro u _ rfl
      exact partedIf_renderMembers ts kept (own ++ u) m n ht.2 h
    cases hkept : t.survives kept with
    | true =>
      have hfirst := partedIf_render t own m n ht.1 h
      exact hfirst.append fun hsame => hrest _ _ (hfirst.eq_iff.mpr hsame)
    | false =>
      have hworded : t.worded = false := by
        cases hw : t.worded with
        | false => rfl
        | true => rw [survives_of_worded ht.1 hw kept] at hkept; cases hkept
      rw [hworded]
      exact Text.PartedIf.append (.of_eq rfl) fun _ => hrest [] [] rfl

end

end Term

namespace Value

section Legible

variable (w : Surroundings) {empty : Nat → Shelf → List Term × Shelf}

/-- Only mappings show the receiver, and they are not blank. -/
theorem legible_literal {v : Value} (hv : v.isLiteral = true) (s : Shelf) :
    (v.termWith w empty s).1.Legible := by
  rw [termWith_of_isLiteral hv]
  cases hr : v.mentions w.isReceiver with
  | false => trivial
  | true =>
    intro own
    cases hblank : Text.isBlank (v.written (w.when own)) with
    | false => rfl
    | true => rw [mentions_of_isBlank_written hv hblank w.isReceiver] at hr; cases hr

mutual

theorem legible_termWith (hempty : ∀ place s, Term.AllLegible (empty place s).1) :
    ∀ (v : Value) (s : Shelf), (v.termWith w empty s).1.Legible
  | .scalar c, s => by
    by_cases hc : c = .null
    · subst hc
      simp [termWith, Term.Legible]
    · exact legible_literal w (isLiteral_scalar hc) s
  | .byteArray bytes, s => legible_literal w rfl s
  | .mapping entries, s => legible_literal w rfl s
  | .query h, s => by
    rw [termWith]
    dsimp only
    split <;> trivial
  | .stream place, s => by
    simpa [termWith, Term.Legible] using hempty place s
  | .group shape members, s => by
    simpa [termWith, Term.Legible] using legible_termsWith hempty members s

theorem legible_termsWith (hempty : ∀ place s, Term.AllLegible (empty place s).1) :
    ∀ (vs : List Value) (s : Shelf), Term.AllLegible (termsWith w empty vs s).1
  | [], s => by simp [termsWith, Term.AllLegible]
  | v :: vs, s => by
    simpa [termsWith, Term.AllLegible] using
      ⟨legible_termWith hempty v s, legible_termsWith hempty vs _⟩

end

theorem legible_emptyStream (depth : Nat) :
    ∀ place s, Term.AllLegible (emptyStream w depth place s).1 := by
  induction depth with
  | zero => exact fun _ _ => trivial
  | succ depth ih => exact fun _ _ => legible_termsWith w ih _ _

theorem legible_term (v : Value) (s : Shelf) : (v.term w s).1.Legible :=
  legible_termWith w (legible_emptyStream w s.length) v s

end Legible

end Value

/-! ## Fields and ranges -/

/-- A field around the clauses of a value. -/
theorem partedIf_renderField {m n : Modifier} (h : m.Twins n) {apart : Bool} {s t : Text}
    (hst : Text.PartedIf apart s t) (name : Text) (factor : Option Number) :
    Text.PartedIf apart (renderField m name s factor) (renderField n name t factor) := by
  have hinner := (hst.orElse hst ['"', '"']).behind (renderOpening m name)
  have hclosed := hinner.append fun _ =>
    .of_eq (s := [')', ' '] ++ (factor.map renderBoost).getD []) rfl
  have hopening : renderOpening n name = renderOpening m name := by
    rw [renderOpening, renderOpening, h.mark]
  rw [renderField, renderField, hopening]
  simpa using hclosed

theorem renderRange_congr {m n : Modifier} (h : m.Twins n) (own : Text) (field : Option Text)
    (start stop : Bound) : renderRange own field start stop m = renderRange own field start stop n := by
  simp only [renderRange, Query.rangeLead, h.mark, h.wildcarded]

end SearchQuery

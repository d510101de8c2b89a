/-
  The queries that a value embeds.

  A query may stand in a value itself, in its groups and in its streams, to any depth; there its
  text becomes a clause.  (In a mapping it is only described, so that its text is a part of a
  literal.)

  1. **Reading takes away** — whoever reads a stream leaves fewer members behind (`Shelf.Within`), so
     what a value embeds while a call goes on, it embedded when the call began.
  2. **Terms (`apart_term`)** — if no embedded query is the receiver and the texts of all of them
     have a property, then the term of the value shows the receiver nowhere as a clause and embeds
     only texts with that property.
-/
import SearchQuery.Proofs.Value.Literal

namespace SearchQuery

/-! ## Reading takes away -/

/-- No stream has a member that it does not have on the other shelf. -/
def Shelf.Within (s s₀ : Shelf) : Prop := ∀ place, ∀ v ∈ s.rest place, v ∈ s₀.rest place

/-- `v.Embeds s h` — the query `h` stands in `v`, in its groups or in the streams on the shelf. -/
inductive Value.Embeds (s : Shelf) : Value → Handle → Prop
  | query (h : Handle) : Embeds s (.query h) h
  | member {shape : Shape} {members : List Value} {v : Value} {h : Handle} (hv : v ∈ members)
      (hh : Embeds s v h) : Embeds s (.group shape members) h
  | streamed {place : Nat} {v : Value} {h : Handle} (hv : v ∈ s.rest place)
      (hh : Embeds s v h) : Embeds s (.stream place) h

namespace Shelf

variable {s s' s₀ : Shelf}

theorem Within.refl (s : Shelf) : s.Within s := fun _ _ hv => hv

theorem rest_put (s : Shelf) (place place' : Nat) (members : List Value) :
    (s.put place members).rest place' = members ∨ (s.put place members).rest place' = s.rest place'
      ∨ (s.put place members).rest place' = [] := by
  unfold put rest
  by_cases h : place = place'
  · subst h
    by_cases hlt : place < s.length
    · exact Or.inl (by simp [hlt])
    · exact Or.inr (Or.inr (by simp [hlt]))
  · exact Or.inr (Or.inl (by simp [h]))

/-- Leaving some members of one stream behind. -/
theorem Within.put {place : Nat} {members : List Value} (h : s.Within s₀)
    (hm : ∀ v ∈ members, v ∈ s₀.rest place) : (s.put place members).Within s₀ := by
  intro place' v hv
  by_cases hp : place = place'
  · subst hp
    rcases rest_put s place place members with hr | hr | hr
    · rw [hr] at hv; exact hm v hv
    · rw [hr] at hv; exact h place v hv
    · rw [hr] at hv; exact absurd hv List.not_mem_nil
  · have hr : (s.put place members).rest place' = s.rest place' := by
      simp [Shelf.put, rest, hp]
    rw [hr] at hv
    exact h place' v hv

end Shelf

namespace Value

variable {s₀ : Shelf}

section Blank

variable (qs : Queries) {look : Nat → Shelf → Bool × Shelf}

mutual

/-- Looking for something in a value takes members away only. -/
theorem within_blankWith (hlook : ∀ place s, s.Within s₀ → (look place s).2.Within s₀) :
    ∀ (v : Value) (s : Shelf), s.Within s₀ → (blankWith qs look v s).2.Within s₀
  | .scalar c, s, hs => by
    by_cases hc : c = .null
    · subst hc; simpa [blankWith] using hs
    · rw [blankWith_of_isLiteral (isLiteral_scalar hc)]; exact hs
  | .byteArray bytes, s, hs => by rw [blankWith_of_isLiteral rfl]; exact hs
  | .mapping entries, s, hs => by rw [blankWith_of_isLiteral rfl]; exact hs
  | .query h, s, hs => by simpa [blankWith] using hs
  | .stream place, s, hs => by simpa [blankWith] using hlook place s hs
  | .group shape members, s, hs => by
    simpa [blankWith] using (within_allBlankWith hlook members s hs).2

theorem within_allBlankWith (hlook : ∀ place s, s.Within s₀ → (look place s).2.Within s₀) :
    ∀ (vs : List Value) (s : Shelf), s.Within s₀ →
      (∀ v ∈ (allBlankWith qs look vs s).2.1, v ∈ vs) ∧ (allBlankWith qs look vs s).2.2.Within s₀
  | [], s, hs => by simpa [allBlankWith] using hs
  | v :: vs, s, hs => by
    have hfirst := within_blankWith hlook v s hs
    rcases hb : blankWith qs look v s with ⟨blank, s'⟩
    rw [hb] at hfirst
    cases blank with
    | true =>
      obtain ⟨hunread, hrest⟩ := within_allBlankWith hlook vs s' hfirst
      rw [allBlankWith, hb]
      exact ⟨fun u hu => List.mem_cons_of_mem v (hunread u hu), hrest⟩
    | false =>
      rw [allBlankWith, hb]
      exact ⟨fun u hu => List.mem_cons_of_mem v hu, hfirst⟩

end

theorem within_lookInto (depth : Nat) :
    ∀ place s, s.Within s₀ → (lookInto qs depth place s).2.Within s₀ := by
  induction depth with
  | zero => exact fun _ _ hs => hs
  | succ depth ih =>
    intro place s hs
    -- The members that were not looked at are put back, and they were there before.
    obtain ⟨hunread, hrest⟩ := within_allBlankWith qs ih (s.rest place) s hs
    exact hrest.put fun v hv => hs place v (hunread v hv)

theorem within_isBlank (v : Value) {s : Shelf} (hs : s.Within s₀) :
    (v.isBlank qs s).2.Within s₀ :=
  within_blankWith qs (within_lookInto qs s.length) v s hs

end Blank

section Emptying

variable (w : Surroundings) {empty : Nat → Shelf → List Term × Shelf}

mutual

/-- Reading a value for its term takes members away only. -/
theorem within_termWith (hempty : ∀ place s, s.Within s₀ → (empty place s).2.Within s₀) :
    ∀ (v : Value) (s : Shelf), s.Within s₀ → (v.termWith w empty s).2.Within s₀
  | .scalar c, s, hs => by
    by_cases hc : c = .null
    · subst hc; simpa [termWith] using hs
    · rw [termWith_of_isLiteral (isLiteral_scalar hc)]; exact hs
  | .byteArray bytes, s, hs => by rw [termWith_of_isLiteral rfl]; exact hs
  | .mapping entries, s, hs => by rw [termWith_of_isLiteral rfl]; exact hs
  | .query h, s, hs => by simpa [termWith] using hs
  | .stream place, s, hs => by simpa [termWith] using hempty place s hs
  | .group shape members, s, hs => by
    simpa [termWith] using within_termsWith hempty members s hs

theorem within_termsWith (hempty : ∀ place s, s.Within s₀ → (empty place s).2.Within s₀) :
    ∀ (vs : List Value) (s : Shelf), s.Within s₀ → (termsWith w empty vs s).2.Within s₀
  | [], _, hs => hs
  | v :: vs, s, hs => within_termsWith hempty vs _ (within_termWith hempty v s hs)

end

theorem within_emptyStream (depth : Nat) :
    ∀ place s, s.Within s₀ → (emptyStream w depth place s).2.Within s₀ := by
  induction depth with
  | zero => exact fun _ _ hs => hs
  | succ depth ih =>
    intro place s hs
    exact within_termsWith w ih _ _ (hs.put (by simp))

end Emptying
end Value

/-! ## Terms -/

namespace Term

mutual

/-- The receiver is no clause of a term, and the texts embedded in it have a property. -/
def Apart (p : Text → Prop) : Term → Prop
  | .embedded t => p t
  | .receiver => False
  | .group members => AllApart p members
  | .absent | .literal _ | .depiction _ => True

/-- The same of each of the terms. -/
def AllApart (p : Text → Prop) : List Term → Prop
  | [] => True
  | t :: ts => t.Apart p ∧ AllApart p ts

end

end Term

namespace Value

section Terms

variable (w : Surroundings) {s₀ : Shelf} (p : Text → Prop)

/-- Whether the queries that a value embeds are not the receiver and have texts with a property. -/
def Apart (s : Shelf) (v : Value) : Prop :=
  ∀ h, v.Embeds s h → w.isReceiver h = false ∧ p (w.text h)

variable {w p} in
@[simp] theorem apart_query {h : Handle} :
    Apart w p s₀ (.query h) ↔ w.isReceiver h = false ∧ p (w.text h) := by
  constructor
  · intro hv
    exact hv h (.query h)
  · intro hh g hg
    cases hg
    exact hh

variable {w p} in
@[simp] theorem apart_group {shape : Shape} {members : List Value} :
    Apart w p s₀ (.group shape members) ↔ ∀ v ∈ members, Apart w p s₀ v := by
  constructor
  · intro hg v hv h hh
    exact hg h (.member hv hh)
  · intro hall h hh
    cases hh with
    | member hv hh => exact hall _ hv h hh

variable {w p} in
@[simp] theorem apart_stream {place : Nat} :
    Apart w p s₀ (.stream place) ↔ ∀ v ∈ s₀.rest place, Apart w p s₀ v := by
  constructor
  · intro hs v hv h hh
    exact hs h (.streamed hv hh)
  · intro hall h hh
    cases hh with
    | streamed hv hh => exact hall _ hv h hh

variable {w p} in
@[simp] theorem apart_scalar {c : Scalar} : Apart w p s₀ (.scalar c) := by
  intro h hh
  cases hh

/-- A literal is no clause of a query, even if queries are described in it. -/
theorem apart_literal (empty : Nat → Shelf → List Term × Shelf) {v : Value}
    (hv : v.isLiteral = true) (s : Shelf) : (v.termWith w empty s).1.Apart p := by
  rw [termWith_of_isLiteral hv]
  dsimp only
  split <;> trivial

variable {empty : Nat → Shelf → List Term × Shelf}

mutual

theorem apart_termWith (hkeeps : ∀ place s, s.Within s₀ → (empty place s).2.Within s₀)
    (hempty : ∀ place s, s.Within s₀ → Apart w p s₀ (.stream place) →
      Term.AllApart p (empty place s).1) :
    ∀ (v : Value) (s : Shelf), s.Within s₀ → Apart w p s₀ v → (v.termWith w empty s).1.Apart p
  | .scalar c, s, hs, hv => by
    by_cases hc : c = .null
    · subst hc; trivial
    · exact apart_literal w p empty (isLiteral_scalar hc) s
  | .byteArray bytes, s, hs, hv => apart_literal w p empty rfl s
  | .mapping entries, s, hs, hv => apart_literal w p empty rfl s
  | .query h, s, hs, hv => by
    obtain ⟨hr, hp⟩ := hv h (.query h)
    simpa [termWith, hr, Term.Apart] using hp
  | .stream place, s, hs, hv => by
    simpa [termWith, Term.Apart] using hempty place s hs hv
  | .group shape members, s, hs, hv => by
    simpa [termWith, Term.Apart] using
      apart_termsWith hkeeps hempty members s hs (apart_group.mp hv)

theorem apart_termsWith (hkeeps : ∀ place s, s.Within s₀ → (empty place s).2.Within s₀)
    (hempty : ∀ place s, s.Within s₀ → Apart w p s₀ (.stream place) →
      Term.AllApart p (empty place s).1) :
    ∀ (vs : List Value) (s : Shelf), s.Within s₀ → (∀ v ∈ vs, Apart w p s₀ v) →
      Term.AllApart p (termsWith w empty vs s).1
  | [], s, hs, hv => trivial
  | v :: vs, s, hs, hv => by
    have hfirst := apart_termWith hkeeps hempty v s hs (hv v List.mem_cons_self)
    have hrest := apart_termsWith hkeeps hempty vs _ (within_termWith w hkeeps v s hs) fun u hu =>
      hv u (List.mem_cons_of_mem v hu)
    exact ⟨hfirst, hrest⟩

end

theorem apart_emptyStream (depth : Nat) :
    ∀ place s, s.Within s₀ → Apart w p s₀ (.stream place) →
      Term.AllApart p (emptyStream w depth place s).1 := by
  induction depth with
  | zero => exact fun _ _ _ _ => trivial
  | succ depth ih =>
    intro place s hs hv
    -- The stream is taken off the shelf first, so its members are read with less than there was.
    exact apart_termsWith w p (within_emptyStream w depth) ih _ _ (hs.put (by simp))
      fun v hmem => apart_stream.mp hv v (hs place v hmem)

/-- **The term of a value** shows the receiver nowhere as a clause and embeds only texts with the
    property, also when a part of the streams was read before. -/
theorem apart_term {v : Value} {s : Shelf} (hs : s.Within s₀) (hv : Apart w p s₀ v) :
    (v.term w s).1.Apart p :=
  apart_termWith w p (within_emptyStream w s.length) (apart_emptyStream w p s.length) v s hs hv

/-- Settling a value keeps what it embeds. -/
theorem apart_settled {v : Value} {s : Shelf} (hs : s.Within s₀) (hv : Apart w p s₀ v) :
    Apart w p s₀ (v.settled s).1 ∧ (v.settled s).2.Within s₀ := by
  unfold settled
  split
  · exact ⟨apart_group.mpr (apart_group.mp hv), hs⟩
  · rename_i place
    refine ⟨apart_group.mpr fun u hu => ?_, hs.put (by simp)⟩
    exact apart_stream.mp hv u (hs place u hu)
  · exact ⟨hv, hs⟩

end Terms

end Value
end SearchQuery

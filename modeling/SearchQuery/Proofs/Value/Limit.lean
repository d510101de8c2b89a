/-
  What breaks off, and what is left of it.

  1. **Nothing at fault (`break?_eq_none`, `blankBreak?_eq_none`)** — if a value and all that is left
     in the streams may be written, then neither a look at the value nor writing it breaks off.
  2. **What was written (`apart_break?`)** — the terms in a remnant are terms of the value, so they
     embed nothing else: if no embedded query is the receiver and the texts of all of them have a
     property, that is so for the remnant.
-/
import SearchQuery.Proofs.Value.Embedded
import SearchQuery.Value.Limit

namespace SearchQuery

/-! ## Nothing at fault -/

/-- All that is still to be read may be written. -/
def Shelf.IsWritable (s : Shelf) : Prop := ∀ place, ∀ v ∈ s.rest place, v.isWritable = true

namespace Shelf

variable {s s₀ : Shelf}

theorem isWritable_nil : IsWritable [] := fun place v hv => by simp [rest] at hv

theorem IsWritable.within (h : s₀.IsWritable) (hs : s.Within s₀) : s.IsWritable :=
  fun place v hv => h place v (hs place v hv)

theorem Within.trans {s s' : Shelf} (h : s.Within s') (h' : s'.Within s₀) : s.Within s₀ :=
  fun place v hv => h' place v (h place v hv)

end Shelf

namespace Value

theorem allWritable_iff {vs : List Value} :
    allWritable vs = true ↔ ∀ v ∈ vs, v.isWritable = true := by
  induction vs with
  | nil => simp [allWritable]
  | cons v vs ih => simp [allWritable, ih]

/-- Nothing keeps a group from being opened of which all members may be written. -/
theorem behindBar?_eq_none {vs : List Value} (h : ∀ v ∈ vs, v.isWritable = true) :
    behindBar? vs = none := by
  induction vs with
  | nil => rfl
  | cons v vs ih =>
    have hv : v.bars = false := by simp [bars, h v List.mem_cons_self]
    rw [behindBar?, hv]
    exact ih fun u hu => h u (List.mem_cons_of_mem v hu)

section Looking

variable (qs : Queries) {look : Nat → Shelf → Bool × Shelf} {breaks : Nat → Shelf → Option Shelf}
  {s₀ : Shelf}

/-- A look at what is no group breaks off if that may not be written. -/
theorem blankBreakWith_of_isGroup {v : Value} (hv : v.isGroup = false) (s : Shelf) :
    blankBreakWith qs look breaks v s = if v.isWritable then none else some s := by
  cases v with
  | group shape members => cases hv
  | stream place => cases hv
  | _ => simp only [blankBreakWith]

mutual

theorem blankBreakWith_eq_none (hlook : ∀ place s, s.Within s₀ → (look place s).2.Within s₀)
    (hbreaks : ∀ place s, s.Within s₀ → breaks place s = none) :
    ∀ (v : Value) (s : Shelf), s.Within s₀ → v.isWritable = true →
      blankBreakWith qs look breaks v s = none
  | .group shape members, s, hs, hv => by
    rw [isWritable, allWritable_iff] at hv
    rw [blankBreakWith, allBlankBreakWith_eq_none hlook hbreaks members s hs hv]
    rfl
  | .stream place, s, hs, hv => by rw [blankBreakWith]; exact hbreaks place s hs
  | .scalar _, s, hs, hv | .byteArray _, s, hs, hv | .mapping _, s, hs, hv | .query _, s, hs, hv => by
    rw [blankBreakWith_of_isGroup qs rfl, if_pos hv]

theorem allBlankBreakWith_eq_none (hlook : ∀ place s, s.Within s₀ → (look place s).2.Within s₀)
    (hbreaks : ∀ place s, s.Within s₀ → breaks place s = none) :
    ∀ (vs : List Value) (s : Shelf), s.Within s₀ → (∀ v ∈ vs, v.isWritable = true) →
      allBlankBreakWith qs look breaks vs s = none
  | [], s, hs, hvs => rfl
  | v :: vs, s, hs, hvs => by
    have hv := blankBreakWith_eq_none hlook hbreaks v s hs (hvs v List.mem_cons_self)
    have hlooked := within_blankWith qs hlook v s hs
    rw [allBlankBreakWith, hv]
    rcases hb : blankWith qs look v s with ⟨blank, s'⟩
    rw [hb] at hlooked
    cases blank with
    | true =>
      exact allBlankBreakWith_eq_none hlook hbreaks vs s' hlooked fun u hu =>
        hvs u (List.mem_cons_of_mem v hu)
    | false => rfl

end

theorem lookBreak?_eq_none (hwritable : s₀.IsWritable) (depth : Nat) :
    ∀ place s, s.Within s₀ → lookBreak? qs depth place s = none := by
  induction depth with
  | zero => exact fun _ _ _ => rfl
  | succ depth ih =>
    intro place s hs
    rw [lookBreak?, allBlankBreakWith_eq_none qs (within_lookInto qs depth) ih (s.rest place) s hs
      (hwritable.within hs place)]
    rfl

/-- **A look** breaks off at nothing that may be written. -/
theorem blankBreak?_eq_none {v : Value} {s : Shelf} (hv : v.isWritable = true) (hs : s.IsWritable) :
    v.blankBreak? qs s = none :=
  blankBreakWith_eq_none qs (within_lookInto qs s.length) (lookBreak?_eq_none qs hs s.length) v s
    (.refl s) hv

end Looking

section Writing

variable (w : Surroundings) {empty : Nat → Shelf → List Term × Shelf}
  {breaks : Nat → Shelf → Option (Remnant × Shelf)} {s₀ : Shelf}

/-- Of what is no group nothing is written if it may not be written. -/
theorem breakWith_of_isGroup {v : Value} (hv : v.isGroup = false) (s : Shelf) :
    breakWith w empty breaks v s = if v.isWritable then none else some (.nothing, s) := by
  cases v with
  | group shape members => cases hv
  | stream place => cases hv
  | _ => simp only [breakWith]

mutual

theorem breakWith_eq_none (hkeeps : ∀ place s, s.Within s₀ → (empty place s).2.Within s₀)
    (hbreaks : ∀ place s, s.Within s₀ → breaks place s = none) :
    ∀ (v : Value) (s : Shelf), s.Within s₀ → v.isWritable = true →
      breakWith w empty breaks v s = none
  | .group shape members, s, hs, hv => by
    rw [isWritable, allWritable_iff] at hv
    rw [breakWith, behindBar?_eq_none hv]
    exact breakMembersWith_eq_none hkeeps hbreaks members s hs hv
  | .stream place, s, hs, hv => by rw [breakWith]; exact hbreaks place s hs
  | .scalar _, s, hs, hv | .byteArray _, s, hs, hv | .mapping _, s, hs, hv | .query _, s, hs, hv => by
    rw [breakWith_of_isGroup w rfl, if_pos hv]

theorem breakMembersWith_eq_none (hkeeps : ∀ place s, s.Within s₀ → (empty place s).2.Within s₀)
    (hbreaks : ∀ place s, s.Within s₀ → breaks place s = none) :
    ∀ (vs : List Value) (s : Shelf), s.Within s₀ → (∀ v ∈ vs, v.isWritable = true) →
      breakMembersWith w empty breaks vs s = none
  | [], s, hs, hvs => rfl
  | v :: vs, s, hs, hvs => by
    have hv := breakWith_eq_none hkeeps hbreaks v s hs (hvs v List.mem_cons_self)
    have hrest := breakMembersWith_eq_none hkeeps hbreaks vs _ (within_termWith w hkeeps v s hs)
      fun u hu => hvs u (List.mem_cons_of_mem v hu)
    rw [breakMembersWith, hv]
    simp only [hrest, Option.map_none]

end

theorem streamBreak?_eq_none (hwritable : s₀.IsWritable) (depth : Nat) :
    ∀ place s, s.Within s₀ → streamBreak? w depth place s = none := by
  induction depth with
  | zero => exact fun _ _ _ => rfl
  | succ depth ih =>
    intro place s hs
    have hrest := hwritable.within hs place
    rw [streamBreak?, behindBar?_eq_none hrest]
    exact breakMembersWith_eq_none w (within_emptyStream w depth) ih _ _ (hs.put (by simp)) hrest

/-- **Writing** breaks off at nothing that may be written. -/
theorem break?_eq_none {v : Value} {s : Shelf} (hv : v.isWritable = true) (hs : s.IsWritable) :
    v.break? w s = none :=
  breakWith_eq_none w (within_emptyStream w s.length) (streamBreak?_eq_none w hs s.length) v s
    (.refl s) hv

end Writing

end Value

/-! ## What was written -/

namespace Remnant

/-- The receiver is no clause of a remnant, and the texts embedded in it have a property. -/
def Apart (p : Text → Prop) : Remnant → Prop
  | .nothing => True
  | .opened before rest => Term.AllApart p before ∧ rest.Apart p

theorem Apart.behind {p : Text → Prop} {t : Term} (ht : t.Apart p) :
    ∀ {r : Remnant}, r.Apart p → (r.behind t).Apart p
  | .nothing, _ => trivial
  | .opened _ _, ⟨hbefore, hrest⟩ => ⟨⟨ht, hbefore⟩, hrest⟩

end Remnant

namespace Value

section Written

variable (w : Surroundings) (p : Text → Prop) {empty : Nat → Shelf → List Term × Shelf}
  {breaks : Nat → Shelf → Option (Remnant × Shelf)} {s₀ : Shelf}

mutual

theorem apart_breakWith (hkeeps : ∀ place s, s.Within s₀ → (empty place s).2.Within s₀)
    (hempty : ∀ place s, s.Within s₀ → Apart w p s₀ (.stream place) →
      Term.AllApart p (empty place s).1)
    (hbreaks : ∀ place s, s.Within s₀ → Apart w p s₀ (.stream place) →
      ∀ r ∈ breaks place s, r.1.Apart p) :
    ∀ (v : Value) (s : Shelf), s.Within s₀ → Apart w p s₀ v →
      ∀ r ∈ breakWith w empty breaks v s, r.1.Apart p
  | .group shape members, s, hs, hv, r, hr => by
    rw [breakWith] at hr
    cases hbar : behindBar? members with
    | some unread =>
      simp only [hbar] at hr
      obtain rfl := Option.mem_some.mp hr
      trivial
    | none =>
      simp only [hbar] at hr
      exact apart_breakMembersWith hkeeps hempty hbreaks members s hs (apart_group.mp hv) r hr
  | .stream place, s, hs, hv, r, hr => by
    rw [breakWith] at hr
    exact hbreaks place s hs hv r hr
  | .scalar _, s, hs, hv, r, hr | .byteArray _, s, hs, hv, r, hr | .mapping _, s, hs, hv, r, hr
  | .query _, s, hs, hv, r, hr => by
    rw [breakWith_of_isGroup w rfl, Option.mem_ite_none_left] at hr
    obtain rfl := Option.mem_some.mp hr.2
    trivial

theorem apart_breakMembersWith (hkeeps : ∀ place s, s.Within s₀ → (empty place s).2.Within s₀)
    (hempty : ∀ place s, s.Within s₀ → Apart w p s₀ (.stream place) →
      Term.AllApart p (empty place s).1)
    (hbreaks : ∀ place s, s.Within s₀ → Apart w p s₀ (.stream place) →
      ∀ r ∈ breaks place s, r.1.Apart p) :
    ∀ (vs : List Value) (s : Shelf), s.Within s₀ → (∀ v ∈ vs, Apart w p s₀ v) →
      ∀ r ∈ breakMembersWith w empty breaks vs s, r.1.Apart p
  | [], s, hs, hvs, r, hr => by cases hr
  | v :: vs, s, hs, hvs, r, hr => by
    have hv := hvs v List.mem_cons_self
    rw [breakMembersWith] at hr
    cases hb : breakWith w empty breaks v s with
    | some rest =>
      -- The group is open, and no member in front of this one was written.
      have hrest := apart_breakWith hkeeps hempty hbreaks v s hs hv rest hb
      simp only [hb] at hr
      obtain rfl := Option.mem_some.mp hr
      exact ⟨trivial, hrest⟩
    | none =>
      have hterm := apart_termWith w p hkeeps hempty v s hs hv
      simp only [hb, Option.mem_def] at hr
      obtain ⟨later, hlater, rfl⟩ := Option.map_eq_some_iff.mp hr
      have hvs' := apart_breakMembersWith hkeeps hempty hbreaks vs _
        (within_termWith w hkeeps v s hs) (fun u hu => hvs u (List.mem_cons_of_mem v hu)) later hlater
      exact Remnant.Apart.behind hterm hvs'

end

theorem apart_streamBreak? (depth : Nat) :
    ∀ place s, s.Within s₀ → Apart w p s₀ (.stream place) →
      ∀ r ∈ streamBreak? w depth place s, r.1.Apart p := by
  induction depth with
  | zero => intro place s hs hv r hr; cases hr
  | succ depth ih =>
    intro place s hs hv r hr
    rw [streamBreak?] at hr
    cases hbar : behindBar? (s.rest place) with
    | some unread =>
      simp only [hbar] at hr
      obtain rfl := Option.mem_some.mp hr
      trivial
    | none =>
      simp only [hbar] at hr
      exact apart_breakMembersWith w p (within_emptyStream w depth) (apart_emptyStream w p depth) ih
        _ _ (hs.put (by simp)) (fun v hmem => apart_stream.mp hv v (hs place v hmem)) r hr

/-- **What was written** of a value that broke off embeds only what the value does. -/
theorem apart_break? {v : Value} {s : Shelf} (hs : s.Within s₀) (hv : Apart w p s₀ v)
    {rest : Remnant} {shelf : Shelf} (h : v.break? w s = some (rest, shelf)) : rest.Apart p :=
  apart_breakWith w p (within_emptyStream w s.length) (apart_emptyStream w p s.length)
    (apart_streamBreak? w p s.length) v s hs hv (rest, shelf) h

end Written

end Value
end SearchQuery

/-
  Values with what is in their streams.

  A value only names the place of a stream.  What is in the stream lies on the shelf, other streams
  among it, and whoever reads it takes it away.

  1. **Trees (`Unrolled`)** — a value with the members of each stream in their place.  `x.value` is
     what a caller gives, `x.listed` the same with a list instead of every stream, and `x.OnShelf s`
     says that the streams on the shelf have the members that the tree shows.
  2. **Frame (`Shelf.SameBut`)** — readers touch the streams of the tree only.  Each stream stands in
     one place, so what is read for one member leaves the streams of the others alone.
  3. **Terms (`term_value`)** — each stream is read once and to its end, so the term is that of the
     lists.
  4. **Looks (`isBlank_value`)** — a look finds what it would find in the lists, but streams lose
     what it has seen: `x.left` is what is there afterwards.
  5. **Settling (`settled_value`)** — before a field takes its look, the outermost stream is read
     into a list, and only that one.
-/
import Mathlib.Data.List.Perm.Subperm
import SearchQuery.Proofs.Value.Embedded

namespace SearchQuery

/-! ## Trees -/

/-- A value with the members of its streams. -/
inductive Unrolled where
  /-- a value that is no group -/
  | single (v : Value) (hv : v.isGroup = false)
  | group (shape : Shape) (members : List Unrolled)
  /-- the stream at a place, with the members that are still to be read -/
  | stream (place : Nat) (members : List Unrolled)

namespace Unrolled

mutual

/-- The value as a caller gives it. -/
def value : Unrolled → Value
  | .single v _ => v
  | .group shape members => .group shape (values members)
  | .stream place _ => .stream place

/-- The values as a caller gives them. -/
def values : List Unrolled → List Value
  | [] => []
  | x :: xs => x.value :: values xs

end

mutual

/-- The value with a list in the place of each stream. -/
def listed : Unrolled → Value
  | .single v _ => v
  | .group shape members => .group shape (listedAll members)
  | .stream _ members => .group .list (listedAll members)

/-- The values with a list in the place of each stream. -/
def listedAll : List Unrolled → List Value
  | [] => []
  | x :: xs => x.listed :: listedAll xs

end

mutual

/-- The places of the streams. -/
def places : Unrolled → List Nat
  | .single _ _ => []
  | .group _ members => placesAll members
  | .stream place members => place :: placesAll members

def placesAll : List Unrolled → List Nat
  | [] => []
  | x :: xs => x.places ++ placesAll xs

end

mutual

/-- The streams on a shelf have the members that the tree shows. -/
def OnShelf (s : Shelf) : Unrolled → Prop
  | .single _ _ => True
  | .group _ members => AllOnShelf s members
  | .stream place members =>
    place < s.length ∧ s.rest place = values members ∧ AllOnShelf s members

def AllOnShelf (s : Shelf) : List Unrolled → Prop
  | [] => True
  | x :: xs => x.OnShelf s ∧ AllOnShelf s xs

end

theorem isGroup_listed (x : Unrolled) : x.listed.isGroup = x.value.isGroup := by
  cases x <;> simp [value, listed, Value.isGroup]

end Unrolled

/-! ## Frame -/

namespace Shelf

/-- Two shelves that differ at some places only. -/
structure SameBut (places : List Nat) (s s' : Shelf) : Prop where
  length : s'.length = s.length
  rest : ∀ place, place ∉ places → s'.rest place = s.rest place

variable {s s' s'' : Shelf} {ps qs : List Nat}

theorem SameBut.refl (ps : List Nat) (s : Shelf) : SameBut ps s s := ⟨rfl, fun _ _ => rfl⟩

theorem SameBut.trans (h : SameBut ps s s') (h' : SameBut qs s' s'') : SameBut (ps ++ qs) s s'' := by
  refine ⟨h'.length.trans h.length, fun place hplace => ?_⟩
  rw [List.mem_append, not_or] at hplace
  rw [h'.rest place hplace.2, h.rest place hplace.1]

theorem SameBut.mono (h : SameBut ps s s') (hps : ps ⊆ qs) : SameBut qs s s' :=
  ⟨h.length, fun place hplace => h.rest place fun hmem => hplace (hps hmem)⟩

theorem sameBut_put (s : Shelf) (place : Nat) (members : List Value) :
    SameBut [place] s (s.put place members) := by
  refine ⟨by simp [put], fun place' hne => ?_⟩
  have hne' : place ≠ place' := by
    rintro rfl
    exact hne List.mem_cons_self
  simp [put, Shelf.rest, hne']

theorem rest_put_self {place : Nat} (h : place < s.length) (members : List Value) :
    (s.put place members).rest place = members := by
  simp [put, Shelf.rest, h]

end Shelf

namespace Unrolled

variable {s s' : Shelf} {ps : List Nat}

mutual

/-- What lies beside a tree may change. -/
theorem OnShelf.of_sameBut (hs : s.SameBut ps s') : ∀ x : Unrolled, x.OnShelf s →
    (∀ place ∈ x.places, place ∉ ps) → x.OnShelf s'
  | .single v hv, _, _ => trivial
  | .group shape members, hx, hps => by
    simp only [OnShelf, places] at hx hps ⊢
    exact AllOnShelf.of_sameBut hs members hx hps
  | .stream place members, hx, hps => by
    simp only [OnShelf, places] at hx hps ⊢
    obtain ⟨hlt, hrest, hmembers⟩ := hx
    refine ⟨?_, ?_, ?_⟩
    · rw [hs.length]; exact hlt
    · rw [hs.rest place (hps place List.mem_cons_self)]; exact hrest
    · exact AllOnShelf.of_sameBut hs members hmembers fun p hp => hps p (List.mem_cons_of_mem _ hp)

theorem AllOnShelf.of_sameBut (hs : s.SameBut ps s') : ∀ xs : List Unrolled, AllOnShelf s xs →
    (∀ place ∈ placesAll xs, place ∉ ps) → AllOnShelf s' xs
  | [], _, _ => trivial
  | x :: xs, hxs, hps => by
    simp only [AllOnShelf, placesAll, List.mem_append] at hxs hps ⊢
    exact ⟨OnShelf.of_sameBut hs x hxs.1 fun p hp => hps p (.inl hp),
      AllOnShelf.of_sameBut hs xs hxs.2 fun p hp => hps p (.inr hp)⟩

end

mutual

theorem OnShelf.places_lt : ∀ x : Unrolled, x.OnShelf s → ∀ place ∈ x.places, place < s.length
  | .single v hv, _, place, h => absurd h List.not_mem_nil
  | .group shape members, hx, place, h => by
    simp only [OnShelf, places] at hx h
    exact AllOnShelf.places_lt members hx place h
  | .stream place' members, hx, place, h => by
    simp only [OnShelf, places, List.mem_cons] at hx h
    rcases h with rfl | h
    · exact hx.1
    · exact AllOnShelf.places_lt members hx.2.2 place h

theorem AllOnShelf.places_lt : ∀ xs : List Unrolled, AllOnShelf s xs →
    ∀ place ∈ placesAll xs, place < s.length
  | [], _, place, h => absurd h List.not_mem_nil
  | x :: xs, hxs, place, h => by
    simp only [AllOnShelf, placesAll, List.mem_append] at hxs h
    exact h.elim (OnShelf.places_lt x hxs.1 place) (AllOnShelf.places_lt xs hxs.2 place)

end

theorem allOnShelf_iff {xs : List Unrolled} : AllOnShelf s xs ↔ ∀ x ∈ xs, x.OnShelf s := by
  induction xs with
  | nil => simp [AllOnShelf]
  | cons x xs ih => simp [AllOnShelf, ih]

/-- A tree has no more streams than there are on the shelf. -/
theorem OnShelf.length_places {x : Unrolled} (hx : x.OnShelf s) (hnodup : x.places.Nodup) :
    x.places.length ≤ s.length := by
  have hsubset : x.places ⊆ List.range s.length := fun place hplace =>
    List.mem_range.mpr (hx.places_lt x place hplace)
  have hle := (List.subperm_of_subset hnodup hsubset).length_le
  rwa [List.length_range] at hle

end Unrolled

/-! ## Terms -/

namespace Value

/-- What is no group is read without a shelf. -/
theorem termWith_of_not_isGroup {v : Value} (hv : v.isGroup = false) (w : Surroundings)
    (empty empty' : Nat → Shelf → List Term × Shelf) (s s' : Shelf) :
    v.termWith w empty s = ((v.termWith w empty' s').1, s) := by
  cases v with
  | scalar c => cases c <;> rfl
  | byteArray bytes => rfl
  | group shape members => cases hv
  | stream place => cases hv
  | mapping entries => rfl
  | query h => rfl

theorem blankWith_of_not_isGroup {v : Value} (hv : v.isGroup = false) (qs : Queries)
    (look look' : Nat → Shelf → Bool × Shelf) (s s' : Shelf) :
    v.blankWith qs look s = ((v.blankWith qs look' s').1, s) := by
  cases v with
  | scalar c => cases c <;> rfl
  | byteArray bytes => rfl
  | group shape members => cases hv
  | stream place => cases hv
  | mapping entries => rfl
  | query h => rfl

end Value

namespace Unrolled

mutual

/-- What is to be written for a tree. -/
def term (w : Surroundings) : Unrolled → Term
  | .single v _ => (v.term w []).1
  | .group _ members | .stream _ members => .group (terms w members)

def terms (w : Surroundings) : List Unrolled → List Term
  | [] => []
  | x :: xs => x.term w :: terms w xs

end

section Terms

variable (w : Surroundings)

section Listed

variable (empty : Nat → Shelf → List Term × Shelf)

mutual

/-- The lists give the term of the tree and touch no shelf. -/
theorem termWith_listed : ∀ (x : Unrolled) (s : Shelf),
    x.listed.termWith w empty s = (x.term w, s)
  | .single v hv, s => Value.termWith_of_not_isGroup hv w empty _ s []
  | .group shape members, s => by
    simp only [listed, Value.termWith, term, termsWith_listedAll members s]
  | .stream place members, s => by
    simp only [listed, Value.termWith, term, termsWith_listedAll members s]

theorem termsWith_listedAll : ∀ (xs : List Unrolled) (s : Shelf),
    Value.termsWith w empty (listedAll xs) s = (terms w xs, s)
  | [], s => rfl
  | x :: xs, s => by
    simp only [listedAll, Value.termsWith, terms, termWith_listed x s, termsWith_listedAll xs s]

end

end Listed

mutual

theorem termWith_value : ∀ (x : Unrolled) (depth : Nat) (s : Shelf), x.OnShelf s →
    x.places.Nodup → x.places.length ≤ depth →
    (x.value.termWith w (Value.emptyStream w depth) s).1 = x.term w ∧
      s.SameBut x.places (x.value.termWith w (Value.emptyStream w depth) s).2
  | .single v hv, depth, s, _, _, _ => by
    have hread := Value.termWith_of_not_isGroup hv w (Value.emptyStream w depth)
      (Value.emptyStream w 0) s []
    simp only [value, hread]
    exact ⟨rfl, .refl _ s⟩
  | .group shape members, depth, s, hx, hnodup, hdepth => by
    simp only [OnShelf, places] at hx hnodup hdepth
    obtain ⟨hterms, hframe⟩ := termsWith_values members depth s hx hnodup hdepth
    simp only [value, Value.termWith, places, term, hterms]
    exact ⟨trivial, hframe⟩
  | .stream place members, 0, s, _, _, hdepth => by
    simp [places] at hdepth
  | .stream place members, depth + 1, s, hx, hnodup, hdepth => by
    simp only [OnShelf, places, List.length_cons] at hx hnodup hdepth
    obtain ⟨-, hrest, hmembers⟩ := hx
    obtain ⟨hfresh, hnodup⟩ := List.nodup_cons.mp hnodup
    -- The stream is taken off the shelf first; the streams in it lie elsewhere.
    have hput := s.sameBut_put place []
    have hstill := AllOnShelf.of_sameBut hput members hmembers fun p hp hmem => by
      obtain rfl : p = place := List.mem_singleton.mp hmem
      exact hfresh hp
    obtain ⟨hterms, hframe⟩ := termsWith_values members depth _ hstill hnodup (by omega)
    simp only [value, Value.termWith, Value.emptyStream, hrest, places, term, hterms]
    exact ⟨trivial, hput.trans hframe⟩

theorem termsWith_values : ∀ (xs : List Unrolled) (depth : Nat) (s : Shelf), AllOnShelf s xs →
    (placesAll xs).Nodup → (placesAll xs).length ≤ depth →
    (Value.termsWith w (Value.emptyStream w depth) (values xs) s).1 = terms w xs ∧
      s.SameBut (placesAll xs) (Value.termsWith w (Value.emptyStream w depth) (values xs) s).2
  | [], depth, s, _, _, _ => by
    simp only [values, Value.termsWith, placesAll, terms]
    exact ⟨trivial, .refl _ s⟩
  | x :: xs, depth, s, hxs, hnodup, hdepth => by
    simp only [AllOnShelf, placesAll, List.length_append] at hxs hnodup hdepth
    obtain ⟨hnodupx, hnodupxs, hdisjoint⟩ := List.nodup_append.mp hnodup
    obtain ⟨hterm, hframe⟩ := termWith_value x depth s hxs.1 hnodupx (by omega)
    have hstill := AllOnShelf.of_sameBut hframe xs hxs.2 fun p hp hmem => hdisjoint p hmem p hp rfl
    obtain ⟨hterms, hframe'⟩ := termsWith_values xs depth _ hstill hnodupxs (by omega)
    simp only [values, Value.termsWith, placesAll, terms, hterm, hterms]
    exact ⟨trivial, hframe.trans hframe'⟩

end

/-- **Writing reads every stream once**, so what is written is what would be for lists. -/
theorem term_value {x : Unrolled} {s : Shelf} (hx : x.OnShelf s) (hnodup : x.places.Nodup) :
    (x.value.term w s).1 = x.term w :=
  (termWith_value w x s.length s hx hnodup (hx.length_places hnodup)).1

theorem term_listed (x : Unrolled) (s : Shelf) : x.listed.term w s = (x.term w, s) :=
  termWith_listed w _ x s

end Terms

/-! ## Looks -/

mutual

/-- Whether there is nothing to search for in a tree. -/
def blank (qs : Queries) : Unrolled → Bool
  | .single v _ => (v.isBlank qs []).1
  | .group _ members | .stream _ members => allBlank qs members

def allBlank (qs : Queries) : List Unrolled → Bool
  | [] => true
  | x :: xs => x.blank qs && allBlank qs xs

end

/-- The members of a stream that a look leaves there: those behind the first that is not blank. -/
def unread (qs : Queries) : List Unrolled → List Unrolled
  | [] => []
  | x :: xs => if x.blank qs then unread qs xs else xs

mutual

/-- What a look leaves of a tree.  A group keeps its members, whatever they have lost. -/
def left (qs : Queries) : Unrolled → Unrolled
  | .single v hv => .single v hv
  | .group shape members => .group shape (leftAll qs members)
  | .stream place members => .stream place (unread qs members)

/-- What a look leaves of the members of a group: it ends at the first that is not blank. -/
def leftAll (qs : Queries) : List Unrolled → List Unrolled
  | [] => []
  | x :: xs => x.left qs :: if x.blank qs then leftAll qs xs else xs

end

section Looks

variable (qs : Queries)

theorem unread_suffix_leftAll (xs : List Unrolled) : unread qs xs <:+ leftAll qs xs := by
  induction xs with
  | nil => exact List.suffix_refl _
  | cons x xs ih =>
    simp only [unread, leftAll]
    cases x.blank qs with
    | true => exact ih.trans (List.suffix_cons _ _)
    | false => exact List.suffix_cons _ _

theorem unread_suffix (xs : List Unrolled) : unread qs xs <:+ xs := by
  induction xs with
  | nil => exact List.suffix_refl _
  | cons x xs ih =>
    simp only [unread]
    cases x.blank qs with
    | true => exact ih.trans (List.suffix_cons x xs)
    | false => exact List.suffix_cons x xs

theorem placesAll_unread (xs : List Unrolled) :
    (placesAll (unread qs xs)).Sublist (placesAll xs) := by
  induction xs with
  | nil => exact List.Sublist.refl _
  | cons x xs ih =>
    have hrest := List.sublist_append_right x.places (placesAll xs)
    simp only [unread, placesAll]
    cases x.blank qs with
    | true => exact ih.trans hrest
    | false => exact hrest

mutual

theorem places_left : ∀ x : Unrolled, (x.left qs).places.Sublist x.places
  | .single v hv => List.Sublist.refl _
  | .group shape members => by
    simp only [left, places]
    exact placesAll_leftAll members
  | .stream place members => by
    simp only [left, places]
    exact (placesAll_unread qs members).cons_cons place

theorem placesAll_leftAll : ∀ xs : List Unrolled,
    (placesAll (leftAll qs xs)).Sublist (placesAll xs)
  | [] => List.Sublist.refl _
  | x :: xs => by
    simp only [leftAll, placesAll]
    refine (places_left x).append ?_
    cases x.blank qs with
    | true => exact placesAll_leftAll xs
    | false => exact List.Sublist.refl _

end

mutual

/-- A look does not touch the value itself. -/
theorem value_left : ∀ x : Unrolled, (x.left qs).value = x.value
  | .single v hv => rfl
  | .group shape members => by
    simp only [left, value, values_leftAll members]
  | .stream place members => rfl

theorem values_leftAll : ∀ xs : List Unrolled, values (leftAll qs xs) = values xs
  | [] => rfl
  | x :: xs => by
    simp only [leftAll, values, value_left x]
    cases x.blank qs with
    | true => exact congrArg _ (values_leftAll xs)
    | false => rfl

end

section Listed

variable (look : Nat → Shelf → Bool × Shelf)

mutual

theorem blankWith_listed : ∀ (x : Unrolled) (s : Shelf),
    x.listed.blankWith qs look s = (x.blank qs, s)
  | .single v hv, s => Value.blankWith_of_not_isGroup hv qs look _ s []
  | .group shape members, s => by
    simp only [listed, Value.blankWith, blank, allBlankWith_listedAll members s]
  | .stream place members, s => by
    simp only [listed, Value.blankWith, blank, allBlankWith_listedAll members s]

theorem allBlankWith_listedAll : ∀ (xs : List Unrolled) (s : Shelf),
    Value.allBlankWith qs look (listedAll xs) s
      = (allBlank qs xs, listedAll (unread qs xs), s)
  | [], s => rfl
  | x :: xs, s => by
    simp only [listedAll, Value.allBlankWith, allBlank, unread, blankWith_listed x s]
    cases x.blank qs with
    | true => exact allBlankWith_listedAll xs s
    | false => rfl

end

end Listed

mutual

theorem blankWith_value : ∀ (x : Unrolled) (depth : Nat) (s : Shelf), x.OnShelf s →
    x.places.Nodup → x.places.length ≤ depth →
    let looked := x.value.blankWith qs (Value.lookInto qs depth) s
    looked.1 = x.blank qs ∧ s.SameBut x.places looked.2 ∧ (x.left qs).OnShelf looked.2
  | .single v hv, depth, s, _, _, _ => by
    have hlook := Value.blankWith_of_not_isGroup hv qs (Value.lookInto qs depth)
      (Value.lookInto qs 0) s []
    simp only [value, hlook]
    exact ⟨rfl, .refl _ s, trivial⟩
  | .group shape members, depth, s, hx, hnodup, hdepth => by
    simp only [OnShelf, places] at hx hnodup hdepth
    obtain ⟨hblank, -, hframe, hleft⟩ := allBlankWith_values members depth s hx hnodup hdepth
    simp only [value, Value.blankWith, blank, places, left, OnShelf]
    exact ⟨hblank, hframe, hleft⟩
  | .stream place members, 0, s, _, _, hdepth => by
    simp [places] at hdepth
  | .stream place members, depth + 1, s, hx, hnodup, hdepth => by
    simp only [OnShelf, places, List.length_cons] at hx hnodup hdepth
    obtain ⟨hlt, hrest, hmembers⟩ := hx
    obtain ⟨hfresh, hnodup⟩ := List.nodup_cons.mp hnodup
    obtain ⟨hblank, hunread, hframe, hleft⟩ :=
      allBlankWith_values members depth s hmembers hnodup (by omega)
    -- What was not looked at is put back; the streams in it lie elsewhere.
    have hback := (Value.allBlankWith qs (Value.lookInto qs depth) (values members) s).2.2.sameBut_put
      place (values (unread qs members))
    have hrestored : AllOnShelf _ (unread qs members) := allOnShelf_iff.mpr fun y hy =>
      allOnShelf_iff.mp hleft y ((unread_suffix_leftAll qs members).subset hy)
    have hstill := AllOnShelf.of_sameBut hback _ hrestored fun p hp hmem => by
      obtain rfl : p = place := List.mem_singleton.mp hmem
      exact hfresh ((placesAll_unread qs members).subset hp)
    simp only [value, Value.blankWith, Value.lookInto, hrest, blank, places, left, OnShelf, hunread]
    refine ⟨hblank, (hframe.trans hback).mono (by simp), ?_, Shelf.rest_put_self ?_ _, hstill⟩
    · rw [hback.length, hframe.length]; exact hlt
    · rw [hframe.length]; exact hlt

theorem allBlankWith_values : ∀ (xs : List Unrolled) (depth : Nat) (s : Shelf), AllOnShelf s xs →
    (placesAll xs).Nodup → (placesAll xs).length ≤ depth →
    let looked := Value.allBlankWith qs (Value.lookInto qs depth) (values xs) s
    looked.1 = allBlank qs xs ∧ looked.2.1 = values (unread qs xs) ∧
      s.SameBut (placesAll xs) looked.2.2 ∧ AllOnShelf looked.2.2 (leftAll qs xs)
  | [], depth, s, _, _, _ => ⟨rfl, rfl, .refl _ s, trivial⟩
  | x :: xs, depth, s, hxs, hnodup, hdepth => by
    simp only [AllOnShelf, placesAll, List.length_append] at hxs hnodup hdepth
    obtain ⟨hnodupx, hnodupxs, hdisjoint⟩ := List.nodup_append.mp hnodup
    obtain ⟨hblank, hframe, hleft⟩ := blankWith_value x depth s hxs.1 hnodupx (by omega)
    have hstill := AllOnShelf.of_sameBut hframe xs hxs.2 fun p hp hmem => hdisjoint p hmem p hp rfl
    have hrest := allBlankWith_values xs depth _ hstill hnodupxs (by omega)
    simp only [values, Value.allBlankWith, allBlank, unread, placesAll, leftAll]
    rcases hlook : x.value.blankWith qs (Value.lookInto qs depth) s with ⟨found, s'⟩
    rw [hlook] at hblank hframe hleft hrest hstill
    obtain rfl : found = x.blank qs := hblank
    cases hb : x.blank qs with
    | true =>
      obtain ⟨hblank', hunread, hframe', hleft'⟩ := hrest
      refine ⟨by simpa using hblank', hunread, hframe.trans hframe', ?_, hleft'⟩
      exact OnShelf.of_sameBut hframe' _ hleft fun p hp hmem =>
        hdisjoint p ((places_left qs x).subset hp) p hmem rfl
    | false => exact ⟨rfl, rfl, hframe.mono (List.subset_append_left _ _), hleft, hstill⟩

end

/-- **A look** at the streams finds what it would find in the lists, and leaves behind what it has
    not seen. -/
theorem isBlank_value {x : Unrolled} {s : Shelf} (hx : x.OnShelf s) (hnodup : x.places.Nodup) :
    (x.value.isBlank qs s).1 = x.blank qs ∧ (x.left qs).OnShelf (x.value.isBlank qs s).2 :=
  have hlook := blankWith_value qs x s.length s hx hnodup (hx.length_places hnodup)
  ⟨hlook.1, hlook.2.2⟩

theorem isBlank_listed (x : Unrolled) (s : Shelf) : x.listed.isBlank qs s = (x.blank qs, s) :=
  blankWith_listed qs _ x s

end Looks

/-! ## Settling -/

/-- The tree when its outermost group can be read again. -/
def settled : Unrolled → Unrolled
  | .group .set members | .stream _ members => .group .list members
  | x => x

theorem settled_listed (x : Unrolled) (s : Shelf) : x.listed.settled s = (x.settled.listed, s) := by
  cases x with
  | single v hv => cases v <;> first | rfl | cases hv
  | group shape members => cases shape <;> rfl
  | stream place members => rfl

theorem settled_value {x : Unrolled} {s : Shelf} (hx : x.OnShelf s) (hnodup : x.places.Nodup) :
    (x.value.settled s).1 = x.settled.value ∧ x.settled.OnShelf (x.value.settled s).2 ∧
      x.settled.places.Nodup := by
  cases x with
  | single v hv => cases v <;> first | exact ⟨rfl, trivial, hnodup⟩ | cases hv
  | group shape members =>
    simp only [OnShelf, places] at hx hnodup
    cases shape <;> exact ⟨rfl, hx, hnodup⟩
  | stream place members =>
    simp only [OnShelf, places] at hx hnodup
    obtain ⟨hfresh, hnodup⟩ := List.nodup_cons.mp hnodup
    have hstill := AllOnShelf.of_sameBut (s.sameBut_put place []) members hx.2.2 fun p hp hmem => by
      obtain rfl : p = place := List.mem_singleton.mp hmem
      exact hfresh hp
    refine ⟨?_, hstill, hnodup⟩
    simp only [value, Value.settled, settled, hx.2.1]

end Unrolled
end SearchQuery

/-
  Keys of mappings.

  A key may be written in several forms: numbers at one place, points in time with one meaning.  What is
  put in under one form is found under all of them.

  1. **Forms of a key (`Scalar.sameKey_iff`)** — two scalars are the same key when they have their
     identity in common; so being the same key is symmetric and transitive.  Only the number that is
     none, where it is not the one of the documents, is not the same key as itself: it has no identity
     and is never found again.
  2. **Entries (`Entries.Keyed`)** — a key stands in a mapping once.  Putting in a value keeps this, and
     changes what is found under its own key only (`get?_insert`).
-/
import SearchQuery.Config.Merge
import SearchQuery.Proofs.Modifier.Equality

namespace SearchQuery

/-! ## Forms of a key -/

namespace Scalar

variable {a b c : Scalar}

/-- What all forms of a key have in common: the place of a number on the line, a point in time with its
    seconds, anything else itself.  A number that is none has nothing in common with anything. -/
def identity? : Scalar → Option (Double.Position ⊕ (Bool × Int × Nat × Nat) ⊕ Scalar)
  | .number n => n.position?.map .inl
  | .moment m => some (.inr (.inl (m.offset.isSome, m.minutes, m.second, m.microsecond)))
  | s => some (.inr (.inr s))

theorem sameKey_iff : a.sameKey b = true ↔ ∃ x, a.identity? = some x ∧ b.identity? = some x := by
  have hother (s t : Scalar) : (s == t) = true ↔
      ∃ x : Double.Position ⊕ (Bool × Int × Nat × Nat) ⊕ Scalar,
        some (.inr (.inr s)) = some x ∧ some (.inr (.inr t)) = some x := by
    simp only [beq_iff_eq, Option.some.injEq, exists_eq_left', Sum.inr.injEq]
    exact eq_comm
  cases a with
  | number m =>
    cases b with
    | number n =>
      simp only [sameKey, identity?, Number.equal_iff_position, Option.map_eq_some_iff]
      constructor
      · rintro ⟨p, hm, hn⟩
        exact ⟨.inl p, ⟨p, hm, rfl⟩, p, hn, rfl⟩
      · rintro ⟨_, ⟨p, hm, rfl⟩, q, hn, hq⟩
        cases hq
        exact ⟨p, hm, hn⟩
    | _ => simp [sameKey, identity?]
  | moment m =>
    cases b with
    | moment n =>
      simp only [sameKey, Moment.same, identity?, Bool.and_eq_true, beq_iff_eq, Option.some.injEq,
        exists_eq_left', Sum.inr.injEq, Sum.inl.injEq, Prod.mk.injEq, and_assoc]
      simp only [eq_comm]
    | _ => simp [sameKey, identity?]
  | _ =>
    cases b with
    | number n => simp [sameKey, identity?]
    | moment n => simp [sameKey, identity?]
    | _ => exact hother _ _

theorem sameKey_comm (a b : Scalar) : a.sameKey b = b.sameKey a := by
  rw [Bool.eq_iff_iff, sameKey_iff, sameKey_iff]
  simp only [and_comm]

theorem sameKey_trans (hab : a.sameKey b = true) (hbc : b.sameKey c = true) :
    a.sameKey c = true := by
  obtain ⟨x, hax, hbx⟩ := sameKey_iff.mp hab
  obtain ⟨y, hby, hcy⟩ := sameKey_iff.mp hbc
  obtain rfl : x = y := Option.some.inj (hbx.symm.trans hby)
  exact sameKey_iff.mpr ⟨x, hax, hcy⟩

/-- Two forms of one key are the same key as the same keys. -/
theorem sameKey_congr (h : a.sameKey b = true) (c : Scalar) : c.sameKey a = c.sameKey b := by
  rw [Bool.eq_iff_iff]
  exact ⟨fun hc => sameKey_trans hc h, fun hc => sameKey_trans hc (by rwa [sameKey_comm])⟩

/-- Every scalar is the same key as itself, but for a number that is none. -/
theorem sameKey_self_iff : a.sameKey a = true ↔ a ≠ .number (.double .nan) := by
  rw [sameKey_iff]
  cases a with
  | number n =>
    cases n with
    | double x =>
      cases x with
      | nan => simp [identity?, Number.position?, Double.position?]
      | infinity s => cases s <;> simp [identity?, Number.position?, Double.position?]
      | finite s u => simp [identity?, Number.position?, Double.position?]
    | flag v => simp [identity?, Number.position?]
    | int n => simp [identity?, Number.position?]
  | _ => simp [identity?]

/-- A text is the same key as itself only. -/
theorem sameKey_text_right {k : Scalar} {t : Text} : k.sameKey (.text t) = true ↔ k = .text t := by
  cases k <;> simp [sameKey]

/-- Another key is not found in place of a text. -/
theorem sameKey_text_eq_false {k : Scalar} {t : Text} (h : k ≠ .text t) :
    k.sameKey (.text t) = false :=
  Bool.eq_false_iff.mpr fun hsame => h (sameKey_text_right.mp hsame)

end Scalar

/-! ## Entries -/

namespace Entries

variable {α : Type}

/-- No two entries have the same key. -/
def Keyed (es : Entries α) : Prop := es.Pairwise fun a b => a.1.sameKey b.1 = false

theorem get?_eq_none {key : Scalar} : ∀ {es : Entries α},
    (∀ e ∈ es, e.1.sameKey key = false) → get? key es = none
  | [], _ => rfl
  | (k, v) :: rest, h => by
    have hk : k.sameKey key = false := h (k, v) List.mem_cons_self
    rw [get?, hk]
    exact get?_eq_none fun e he => h e (List.mem_cons_of_mem _ he)

/-- What is found under a key stands there under a form of it. -/
theorem exists_mem_of_get? {key : Scalar} {value : α} : ∀ {es : Entries α},
    get? key es = some value → ∃ k, (k, value) ∈ es ∧ k.sameKey key = true
  | (k, v) :: rest, h => by
    rw [get?] at h
    split at h
    · rename_i hk
      exact ⟨k, Option.some.inj h ▸ List.mem_cons_self, hk⟩
    · obtain ⟨k', hmem, hk'⟩ := exists_mem_of_get? h
      exact ⟨k', List.mem_cons_of_mem _ hmem, hk'⟩

/-- What is found under a text stands there. -/
theorem mem_of_get? {t : Text} {value : α} {es : Entries α} (h : get? (.text t) es = some value) :
    (.text t, value) ∈ es := by
  obtain ⟨k, hmem, hk⟩ := exists_mem_of_get? h
  rwa [Scalar.sameKey_text_right.mp hk] at hmem

/-- A key that is not there comes last. -/
theorem insert_eq_append {key : Scalar} (value : α) : ∀ {es : Entries α},
    (∀ e ∈ es, e.1.sameKey key = false) → insert key value es = es ++ [(key, value)]
  | [], _ => rfl
  | (k, v) :: rest, h => by
    have hk : k.sameKey key = false := h (k, v) List.mem_cons_self
    rw [insert, hk]
    exact congrArg ((k, v) :: ·) (insert_eq_append value fun e he => h e (List.mem_cons_of_mem _ he))

/-- The keys after a value was put in: those from before, and perhaps the new one. -/
theorem mem_insert {key : Scalar} {value : α} {e : Scalar × α} : ∀ {es : Entries α},
    e ∈ insert key value es →
      e ∈ es ∨ e = (key, value) ∨ ∃ k v, (k, v) ∈ es ∧ k.sameKey key = true ∧ e = (k, value)
  | [], h => Or.inr (Or.inl (List.mem_singleton.mp h))
  | (k, v) :: rest, h => by
    rw [insert] at h
    cases hk : k.sameKey key with
    | true =>
      rw [hk] at h
      rcases List.mem_cons.mp h with rfl | h
      · exact Or.inr (Or.inr ⟨k, v, List.mem_cons_self, hk, rfl⟩)
      · exact Or.inl (List.mem_cons_of_mem _ h)
    | false =>
      rw [hk] at h
      rcases List.mem_cons.mp h with rfl | h
      · exact Or.inl List.mem_cons_self
      · rcases mem_insert h with h | h | ⟨k', v', h, hk', he⟩
        · exact Or.inl (List.mem_cons_of_mem _ h)
        · exact Or.inr (Or.inl h)
        · exact Or.inr (Or.inr ⟨k', v', List.mem_cons_of_mem _ h, hk', he⟩)

theorem keyed_insert (key : Scalar) (value : α) : ∀ {es : Entries α}, Keyed es →
    Keyed (insert key value es)
  | [], _ => List.pairwise_singleton _ _
  | (k, v) :: rest, h => by
    obtain ⟨hfirst, hrest⟩ := List.pairwise_cons.mp h
    rw [insert]
    cases hk : k.sameKey key with
    | true => exact List.pairwise_cons.mpr ⟨hfirst, hrest⟩
    | false =>
      refine List.pairwise_cons.mpr ⟨fun e he => ?_, keyed_insert key value hrest⟩
      rcases mem_insert he with he | rfl | ⟨k', v', hmem, -, rfl⟩
      · exact hfirst e he
      · exact hk
      · exact hfirst (k', v') hmem

theorem keyed_ofPairs (pairs : List (Scalar × α)) : Keyed (ofPairs pairs) := by
  have hfold : ∀ (ps : List (Scalar × α)) (es : Entries α), Keyed es →
      Keyed (ps.foldl (fun es p => insert p.1 p.2 es) es) := by
    intro ps
    induction ps with
    | nil => exact fun es h => h
    | cons p ps ih => exact fun es h => ih _ (keyed_insert p.1 p.2 h)
  exact hfold pairs [] List.Pairwise.nil

/-- Every value stands in one of the pairs. -/
theorem mem_ofPairs {pairs : List (Scalar × α)} {e : Scalar × α} (h : e ∈ ofPairs pairs) :
    ∃ k, (k, e.2) ∈ pairs := by
  have hfold : ∀ (ps : List (Scalar × α)) (es : Entries α),
      e ∈ ps.foldl (fun es p => insert p.1 p.2 es) es →
        (∃ k, (k, e.2) ∈ ps) ∨ ∃ k, (k, e.2) ∈ es := by
    intro ps
    induction ps with
    | nil => exact fun es h => Or.inr ⟨e.1, h⟩
    | cons p ps ih =>
      intro es h
      rcases ih _ h with ⟨k, hk⟩ | ⟨k, hk⟩
      · exact Or.inl ⟨k, List.mem_cons_of_mem _ hk⟩
      · rcases mem_insert hk with hk | hk | ⟨k', v', -, -, hk⟩
        · exact Or.inr ⟨k, hk⟩
        · exact Or.inl ⟨p.1, by rw [(Prod.mk.inj hk).2]; exact List.mem_cons_self⟩
        · exact Or.inl ⟨p.1, by rw [(Prod.mk.inj hk).2]; exact List.mem_cons_self⟩
  rcases hfold pairs [] h with h | ⟨k, hk⟩
  · exact h
  · exact absurd hk List.not_mem_nil

theorem get?_congr {key x : Scalar} (h : key.sameKey x = true) : ∀ es : Entries α,
    get? key es = get? x es
  | [] => rfl
  | (k, v) :: rest => by rw [get?, get?, Scalar.sameKey_congr h, get?_congr h rest]

/-- **Under a key** stands the value that was put in for it last, in whatever form. -/
theorem get?_insert (x key : Scalar) (value : α) : ∀ es : Entries α,
    get? x (insert key value es) = if key.sameKey x then some value else get? x es
  | [] => rfl
  | (k, v) :: rest => by
    have ih := get?_insert x key value rest
    rw [insert]
    cases hk : k.sameKey key with
    | true =>
      have hx : k.sameKey x = key.sameKey x := by
        rw [Scalar.sameKey_comm k, Scalar.sameKey_congr hk, Scalar.sameKey_comm]
      cases hkey : key.sameKey x <;> simp [get?, hx, hkey]
    | false =>
      cases hx : k.sameKey x with
      | true =>
        have hkey : key.sameKey x = false := by
          rw [← Scalar.sameKey_congr hx, Scalar.sameKey_comm, hk]
        simp [get?, hx, hkey]
      | false => simp [get?, hx, ih]

/-- Putting in what stands there already changes nothing. -/
theorem insert_of_get? {key : Scalar} {value : α} : ∀ {es : Entries α},
    get? key es = some value → insert key value es = es
  | (k, v) :: rest, h => by
    rw [get?] at h
    rw [insert]
    split at h
    · rename_i hk
      rw [if_pos hk, Option.some.inj h]
    · rename_i hk
      rw [if_neg hk, insert_of_get? h]

/-- What stands under a key is found, as the key stands there once and is the same as itself. -/
theorem get?_of_mem {key : Scalar} {value : α} (hkey : key.sameKey key = true) :
    ∀ {es : Entries α}, Keyed es → (key, value) ∈ es → get? key es = some value
  | (k, v) :: rest, hes, h => by
    obtain ⟨hfirst, hrest⟩ := List.pairwise_cons.mp hes
    rw [get?]
    rcases List.mem_cons.mp h with heq | h
    · obtain ⟨rfl, rfl⟩ := Prod.mk.inj heq
      rw [if_pos hkey]
    · have hk : k.sameKey key = false := hfirst (key, value) h
      rw [hk]
      exact get?_of_mem hkey hrest h

end Entries

end SearchQuery

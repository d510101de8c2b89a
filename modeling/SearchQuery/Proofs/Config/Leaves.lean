/-
  What a merge of configurations holds, leaf by leaf.

  1. **Leaves (`leaf?_merge`)** — a merge holds the leaves of the later configuration, and of the earlier
     one those that the later one does not cover: it covers a path when it has a leaf on the way there,
     or a mapping at its end.  By induction on the path; where the later one has a mapping under the
     first key, the rest of the path leads through a merge again.
  2. **Merging once more (`merge_merge`)** — what was merged in finds itself there: under each of its keys
     stands what it put there, so putting it there again changes nothing.  Only a key that is not found
     again would be put in twice.
-/
import SearchQuery.Proofs.Config.Sources

namespace SearchQuery

namespace Configuration

open Document (override mergeEntries entriesOf)

/-! ## Leaves -/

section Leaves

variable {c : Configuration} {k : Scalar} {p : List Scalar} {d : Document}

/-- Whether a configuration settles what lies at a path: it has a leaf on the way there, or a mapping at
    its end. -/
def Covers (c : Configuration) (p : List Scalar) : Prop :=
  (∃ q, q <+: p ∧ ∃ d, c.leaf? q = some d) ∨ ∃ es, (Document.mapping c).at? p = some (.mapping es)

/-- The whole of a configuration is no leaf. -/
@[simp] theorem leaf?_nil : c.leaf? [] = none := rfl

/-- Below the first key of a path, a configuration holds what the mapping under that key does. -/
theorem leaf?_cons_cons (c : Configuration) (k k' : Scalar) (p : List Scalar) :
    c.leaf? (k :: k' :: p) = Configuration.leaf? (entriesOf (Entries.get? k c)) (k' :: p) := by
  rw [leaf?, Document.at?]
  cases Entries.get? k c with
  | none => rfl
  | some d => cases d <;> rfl

theorem leaf?_of_get?_eq_none (h : Entries.get? k c = none) : c.leaf? (k :: p) = none := by
  rw [leaf?, Document.at?, h]
  rfl

theorem leaf?_of_get?_eq_mapping {es : Configuration} (h : Entries.get? k c = some (.mapping es)) :
    c.leaf? (k :: p) = es.leaf? p := by
  rw [leaf?, Document.at?, h]
  rfl

/-- A leaf on the way to the end of a path lies behind its first key. -/
theorem exists_leaf_on_way_cons : (∃ q, q <+: k :: p ∧ ∃ d, c.leaf? q = some d) ↔
    ∃ q, q <+: p ∧ ∃ d, c.leaf? (k :: q) = some d := by
  constructor
  · rintro ⟨q, hq, d, hd⟩
    rcases List.prefix_cons_iff.mp hq with rfl | ⟨q', rfl, hq'⟩
    · cases hd
    · exact ⟨q', hq', d, hd⟩
  · rintro ⟨q, hq, hd⟩
    exact ⟨k :: q, List.prefix_cons_iff.mpr (Or.inr ⟨q, rfl, hq⟩), hd⟩

/-- The first key of a path decides whether it is covered, unless there is a mapping under it. -/
theorem covers_cons : c.Covers (k :: p) ↔
    (∃ d, Entries.get? k c = some d ∧ d.isMapping = false) ∨
      ∃ es : Configuration, Entries.get? k c = some (.mapping es) ∧ es.Covers p := by
  rw [Covers, exists_leaf_on_way_cons, Document.at?]
  cases hget : Entries.get? k c with
  | none => simp [leaf?_of_get?_eq_none hget]
  | some d =>
    cases hd : d.isMapping with
    | false =>
      refine iff_of_true (Or.inl ⟨[], List.nil_prefix, d, ?_⟩) (Or.inl ⟨d, rfl, hd⟩)
      rw [leaf?, Document.at?, hget]
      simp [Document.at?, hd]
    | true =>
      cases d with
      | mapping es => simp [leaf?_of_get?_eq_mapping hget, Covers, Document.isMapping]
      | _ => cases hd

theorem covers_nil : c.Covers [] := Or.inr ⟨c, rfl⟩

theorem keyed_of_get? (hc : (Document.mapping c).Keyed) (h : Entries.get? k c = some d) : d.Keyed := by
  obtain ⟨k', hmem, -⟩ := Entries.exists_mem_of_get? h
  exact Document.allKeyed_iff.mp hc.2 _ hmem

/-- **The leaves of a merge** are those of the later configuration, and of the earlier one those that the
    later one does not cover. -/
theorem leaf?_merge (d : Document) : ∀ (p : List Scalar) (a : Configuration) {b : Configuration},
    (Document.mapping b).Keyed →
      ((merge a b).leaf? p = some d ↔ b.leaf? p = some d ∨ (a.leaf? p = some d ∧ ¬ b.Covers p))
  | [], a, b, _ => by simp
  | k :: p, a, b, hb => by
    have hmerge : Entries.get? k (merge a b) = _ := get?_merge k b a hb.1
    cases hget : Entries.get? k b with
    | none =>
      rw [hget] at hmerge
      have hsame : (merge a b).leaf? (k :: p) = a.leaf? (k :: p) := by
        rw [leaf?, leaf?, Document.at?, Document.at?, hmerge]
      simp [hsame, leaf?_of_get?_eq_none hget, covers_cons, hget]
    | some d' =>
      rw [hget] at hmerge
      cases hd' : d'.isMapping with
      | false =>
        have hsame : (merge a b).leaf? (k :: p) = b.leaf? (k :: p) := by
          rw [leaf?, leaf?, Document.at?, Document.at?, hmerge, hget]
          exact congrArg _ (congrArg (fun d => (some d).bind _) (override_of_not_isMapping _ hd'))
        simp [hsame, covers_cons, hget, hd']
      | true =>
        cases d' with
        | mapping es =>
          have hes : (Document.mapping es).Keyed := keyed_of_get? hb hget
          simp only [override_mapping _ hes.1] at hmerge
          have ih := leaf?_merge d p (entriesOf (Entries.get? k a)) hes
          rw [leaf?_of_get?_eq_mapping hmerge, leaf?_of_get?_eq_mapping hget, ih, covers_cons, hget]
          -- A leaf under the key itself gives way to the mapping; below it the earlier one goes on.
          cases p with
          | nil => simp [covers_nil]
          | cons k' p => simp [leaf?_cons_cons, Document.isMapping]
        | _ => cases hd'

end Leaves

end Configuration

/-! ## Merging once more -/

namespace Document

mutual

/-- Whether every key of a mapping, and of the mappings below it, is found again where it was put in.
    Only the number that is none is not, where it goes without its name. -/
def Findable : Document → Prop
  | .mapping entries => AllFindable entries
  | .scalar _ | .sequence _ | .set _ => True

/-- The same of entries. -/
def AllFindable : List (Scalar × Document) → Prop
  | [] => True
  | (k, d) :: rest => k ≠ .number (.double .nan) ∧ d.Findable ∧ AllFindable rest

end

theorem allFindable_iff : ∀ {entries : List (Scalar × Document)},
    AllFindable entries ↔ ∀ e ∈ entries, e.1 ≠ .number (.double .nan) ∧ e.2.Findable
  | [] => by simp [AllFindable]
  | e :: rest => by
    rw [AllFindable, allFindable_iff, List.forall_mem_cons, and_assoc]

end Document

namespace Configuration

open Document (override mergeEntries entriesOf)

/-- Entries that find themselves in place change nothing. -/
theorem mergeEntries_eq_self {c : Configuration} : ∀ {es : List (Scalar × Document)},
    (∀ e ∈ es, ∃ d, Entries.get? e.1 c = some d ∧ override (some d) e.2 = d) →
      mergeEntries c es = c
  | [], _ => by rw [mergeEntries]
  | (k, v) :: rest, h => by
    obtain ⟨d, hget, hd⟩ := h (k, v) List.mem_cons_self
    rw [mergeEntries, hget, hd, Entries.insert_of_get? hget]
    exact mergeEntries_eq_self fun e he => h e (List.mem_cons_of_mem _ he)

/-- **Merged in once more** a configuration changes nothing, as all of its keys are found again. -/
theorem merge_merge (base : Configuration) {c : Configuration} (hkeyed : (Document.mapping c).Keyed)
    (hfind : (Document.mapping c).Findable) : merge (merge base c) c = merge base c := by
  refine mergeEntries_eq_self fun ⟨k, d⟩ he => ?_
  obtain ⟨hkey, hfound⟩ := Document.allFindable_iff.mp hfind _ he
  have hget := get?_merge k c base hkeyed.1
  rw [Entries.get?_of_mem (Scalar.sameKey_self_iff.mpr hkey) hkeyed.1 he] at hget
  refine ⟨_, hget, ?_⟩
  cases d with
  | mapping es =>
    have hbelow : (Document.mapping es).Keyed := Document.allKeyed_iff.mp hkeyed.2 _ he
    have hput := override_mapping (Entries.get? k base) hbelow.1
    rw [hput]
    exact congrArg Document.mapping (merge_merge _ hbelow hfound)
  | _ => rfl
termination_by sizeOf c
decreasing_by
  have hsize : sizeOf (k, Document.mapping es) < sizeOf c := List.sizeOf_lt_of_mem he
  simp only [Prod.mk.sizeOf_spec, Document.mapping.sizeOf_spec] at hsize
  omega

/-! ## Both -/

/-- **Merging loses and invents nothing.**  A merge holds every leaf of the later configuration, every leaf
    of the earlier one that the later one does not cover, and no other.  One configuration stays as it
    is, also when it is given twice, and a last one that is given twice adds nothing: no leaf ever, and no
    key either as far as keys are found again.  The sources may be merged in any number of steps. -/
theorem merging_loses_and_invents_nothing {a b : Configuration} (ha : (Document.mapping a).Keyed)
    (hb : (Document.mapping b).Keyed) :
    (∀ p d, b.leaf? p = some d → (mergeAll [a, b]).leaf? p = some d) ∧
    (∀ p d, a.leaf? p = some d → ¬ b.Covers p → (mergeAll [a, b]).leaf? p = some d) ∧
    (∀ p d, (mergeAll [a, b]).leaf? p = some d →
      b.leaf? p = some d ∨ (a.leaf? p = some d ∧ ¬ b.Covers p)) ∧
    mergeAll [a] = a ∧
    (∀ p, (mergeAll [a, a]).leaf? p = a.leaf? p) ∧
    (∀ p, (mergeAll [a, b, b]).leaf? p = (mergeAll [a, b]).leaf? p) ∧
    ((Document.mapping a).Findable → mergeAll [a, a] = a) ∧
    ((Document.mapping b).Findable → mergeAll [a, b, b] = mergeAll [a, b]) ∧
    ∀ xs ys : List Configuration, mergeAll (xs ++ ys) = mergeAll (mergeAll xs :: ys) := by
  have hone : mergeAll [a] = a := merge_nil ha.1
  have htwo (c : Configuration) : mergeAll [a, c] = merge a c := congrArg (merge · c) hone
  have hthree : mergeAll [a, b, b] = merge (merge a b) b := congrArg (merge · b) (htwo b)
  refine ⟨fun p d h => ?_, fun p d h hp => ?_, fun p d h => ?_, hone, fun p => ?_, fun p => ?_,
    fun h => ?_, fun h => ?_, fun xs ys => (mergeAll_mergeAll xs ys).symm⟩
  · rw [htwo]
    exact (leaf?_merge d p a hb).mpr (Or.inl h)
  · rw [htwo]
    exact (leaf?_merge d p a hb).mpr (Or.inr ⟨h, hp⟩)
  · rw [htwo] at h
    exact (leaf?_merge d p a hb).mp h
  · rw [htwo]
    refine Option.ext fun d => (leaf?_merge d p a ha).trans ?_
    exact ⟨fun h => h.elim id And.left, Or.inl⟩
  · rw [hthree, htwo]
    refine Option.ext fun d => (leaf?_merge d p _ hb).trans ?_
    rw [leaf?_merge d p a hb]
    exact ⟨fun h => h.elim Or.inl And.left,
      fun h => h.elim Or.inl fun hrest => Or.inr ⟨Or.inr hrest, hrest.2⟩⟩
  · rw [htwo]
    have hagain := merge_merge [] ha h
    rwa [merge_nil ha.1] at hagain
  · rw [hthree, htwo, merge_merge a hb h]

/-- One field is kept, one is replaced, a mapping takes the place of a leaf, and given twice neither of
    the configurations changes more. -/
theorem merging_loses_and_invents_nothing_section :
    let a : Configuration := [(.text "modifier".toList, .mapping
      [(.text "fuzzy".toList, .flag true), (.text "fuzziness".toList, .null)]),
      (.null, .flag true)]
    let b : Configuration := [(.null, .mapping []),
      (.text "modifier".toList, .mapping [(.text "fuzzy".toList, .flag false)])]
    (Document.mapping a).Keyed ∧ (Document.mapping b).Keyed ∧
      (mergeAll [a, b]).leaf? [.text "modifier".toList, .text "fuzzy".toList]
        = some (.flag false) ∧
      (mergeAll [a, b]).leaf? [.text "modifier".toList, .text "fuzziness".toList] = some .null ∧
      (mergeAll [a, b]).leaf? [.null] = none ∧
      mergeAll [a, a] = a ∧ mergeAll [a, b, b] = mergeAll [a, b] := by
  intro a b
  have ha : (Document.mapping a).Keyed := by
    simp [a, Document.Keyed, Document.AllKeyed, Entries.Keyed, Scalar.sameKey, Document.flag,
      Document.null]
  have hb : (Document.mapping b).Keyed := by
    simp [b, Document.Keyed, Document.AllKeyed, Entries.Keyed, Scalar.sameKey, Document.flag]
  obtain ⟨hlater, hearlier, honly, -, -, -, hself, hagain, -⟩ :=
    merging_loses_and_invents_nothing ha hb
  refine ⟨ha, hb, hlater _ _ rfl, hearlier _ _ rfl ?_, ?_, hself ?_, hagain ?_⟩
  · simp [covers_cons, b, Entries.get?, Scalar.sameKey, Document.flag, Document.isMapping]
  · refine Option.eq_none_iff_forall_ne_some.mpr fun d hd => ?_
    rcases honly _ d hd with hleaf | ⟨-, hcovers⟩
    · cases hleaf
    · exact hcovers (Or.inr ⟨[], rfl⟩)
  · simp [a, Document.Findable, Document.AllFindable, Document.flag, Document.null]
  · simp [b, Document.Findable, Document.AllFindable, Document.flag]

end Configuration
end SearchQuery

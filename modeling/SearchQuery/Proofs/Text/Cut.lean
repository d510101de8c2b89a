/-
  Cutting a text at the first occurrence of a separator.

  1. **Whether there is a cut (`cut_eq_none_iff`)** — there is one exactly when the separator occurs.
  2. **Where it is (`cut_append`)** — at an occurrence before which no other one begins.  An earlier one
     may share characters with it: behind a text that ends in a dot, the first pair of dots begins with
     that dot.
  3. **One character (`cut_singleton`)** — what stands before the cut is all up to the first occurrence.
-/
import SearchQuery.Text.Basic

namespace SearchQuery.Text

variable {sep before after t : Text} {c : Char}

theorem dropLead?_append (p t : Text) : dropLead? p (p ++ t) = some t := by
  induction p with
  | nil => rfl
  | cons c p ih => rw [List.cons_append, dropLead?, if_pos rfl, ih]

theorem dropLead?_eq_none_iff {p t : Text} : dropLead? p t = none ↔ ¬ p <+: t := by
  constructor
  · rintro h ⟨rest, rfl⟩
    rw [dropLead?_append] at h
    cases h
  · intro h
    cases hdrop : dropLead? p t with
    | none => rfl
    | some rest => exact absurd ⟨rest, (dropLead?_eq_some hdrop).symm⟩ h

theorem cut_of_lead {rest : Text} (h : dropLead? sep t = some rest) : cut sep t = some ([], rest) := by
  cases t with
  | nil => rw [cut, h]; rfl
  | cons c t => rw [cut, h]

theorem cut_cons (h : ¬ sep <+: c :: t) :
    cut sep (c :: t) = (cut sep t).map fun (before, after) => (c :: before, after) := by
  rw [cut, dropLead?_eq_none_iff.mpr h]

/-- **A text is cut** exactly when the separator occurs in it. -/
theorem cut_eq_none_iff : cut sep t = none ↔ ¬ sep <:+: t := by
  induction t with
  | nil =>
    rw [cut, Option.map_eq_none_iff, dropLead?_eq_none_iff, List.prefix_nil, List.infix_nil]
  | cons c t ih =>
    rw [List.infix_cons_iff, not_or, ← ih]
    by_cases h : sep <+: c :: t
    · obtain ⟨rest, hrest⟩ := h
      rw [cut_of_lead (hrest ▸ dropLead?_append sep rest)]
      simp [← hrest]
    · rw [cut_cons h, Option.map_eq_none_iff]
      exact (and_iff_right h).symm

/-- **A text is cut around** an occurrence of the separator before which no other one begins. -/
theorem cut_append (h : ∀ s, s <:+ before → s ≠ [] → ¬ sep <+: s ++ (sep ++ after)) :
    cut sep (before ++ (sep ++ after)) = some (before, after) := by
  induction before with
  | nil => exact cut_of_lead (dropLead?_append sep after)
  | cons c before ih =>
    have hlater := ih fun s hs => h s (hs.trans (List.suffix_cons c before))
    have hfirst : ¬ sep <+: c :: (before ++ (sep ++ after)) :=
      h _ List.suffix_rfl (List.cons_ne_nil c before)
    rw [List.cons_append, cut_cons hfirst, hlater]
    rfl

/-- Two equal characters cut around their occurrence, if the text before does not have them side by side
    and does not end in one. -/
theorem cut_pair (hpair : ¬ [c, c] <:+: before) (hend : before.getLast? ≠ some c) :
    cut [c, c] (before ++ ([c, c] ++ after)) = some (before, after) := by
  refine cut_append fun s hs hne hlead => ?_
  match s with
  | [] => exact hne rfl
  | [d] =>
    obtain ⟨hd, -⟩ := List.cons_prefix_cons.mp hlead
    obtain ⟨front, rfl⟩ := hs
    exact hend (by simp [hd])
  | d :: d' :: s =>
    obtain ⟨hd, hrest⟩ := List.cons_prefix_cons.mp hlead
    obtain ⟨hd', -⟩ := List.cons_prefix_cons.mp hrest
    rw [← hd, ← hd'] at hs
    exact hpair ((List.prefix_append [c, c] s).isInfix.trans hs.isInfix)

/-- **One character** cuts a text around its first occurrence. -/
theorem cut_singleton (c : Char) (t : Text) : cut [c] t =
    if c ∈ t then some (t.takeWhile (· != c), (t.dropWhile (· != c)).tail) else none := by
  induction t with
  | nil => rfl
  | cons d t ih =>
    by_cases hd : c = d
    · subst hd
      have hlead : dropLead? [c] (c :: t) = some t := dropLead?_append [c] t
      rw [cut_of_lead hlead]
      simp
    · have hlead : ¬ [c] <+: d :: t := fun h => hd (List.cons_prefix_cons.mp h).1
      have hne : (d != c) = true := bne_iff_ne.mpr fun h => hd h.symm
      rw [cut_cons hlead, ih, List.takeWhile_cons, List.dropWhile_cons, if_pos hne, if_pos hne]
      by_cases hc : c ∈ t
      · rw [if_pos hc, if_pos (List.mem_cons_of_mem d hc)]
        rfl
      · rw [if_neg hc, if_neg fun h => (List.mem_cons.mp h).elim hd hc]
        rfl

end SearchQuery.Text

/-
  What stripping takes away.

  1. **Trimmed texts** — `Trimmed t`: no blank stands at either end.  Stripping leaves a trimmed text, and
     leaves such a text as it is.
  2. **Rows (`IsRow.strip_append`)** — `IsRow t`: a trimmed text with one blank behind it, as every clause of a
     query is.  Rows one after the other are a row, so all that stripping takes from them is the last blank.
-/
import Mathlib.Data.List.Basic
import SearchQuery.Text.Blank

namespace SearchQuery.Text

/-! ## Trimmed texts -/

/-- A text with a blank at neither end. -/
structure Trimmed (t : Text) : Prop where
  first : ∀ c, t.head? = some c → isBlankChar c = false
  last : ∀ c, t.getLast? = some c → isBlankChar c = false

variable {t u : Text} {c : Char}

theorem first_singleton (hc : isBlankChar c = false) : ∀ d, [c].head? = some d → isBlankChar d = false := by
  intro d hd
  cases hd
  exact hc

theorem stripStart_of_first (h : ∀ c, t.head? = some c → isBlankChar c = false) : stripStart t = t := by
  cases t with
  | nil => rfl
  | cons c t => exact List.dropWhile_cons_of_neg (by rw [h c rfl]; exact Bool.false_ne_true)

theorem first_stripStart (t : Text) : ∀ c, (stripStart t).head? = some c → isBlankChar c = false := by
  intro c hc
  have h := List.head?_dropWhile_not isBlankChar t
  rw [stripStart] at hc
  rwa [hc] at h

/-- The end of a text is stripped as the start of the text the other way round. -/
theorem stripEnd_eq (t : Text) : stripEnd t = (stripStart t.reverse).reverse := rfl

theorem stripEnd_of_last (h : ∀ c, t.getLast? = some c → isBlankChar c = false) : stripEnd t = t := by
  rw [stripEnd_eq, stripStart_of_first fun c hc => h c (List.head?_reverse ▸ hc), List.reverse_reverse]

theorem last_stripEnd (t : Text) : ∀ c, (stripEnd t).getLast? = some c → isBlankChar c = false := by
  intro c hc
  rw [stripEnd_eq, List.getLast?_reverse] at hc
  exact first_stripStart _ c hc

theorem stripEnd_prefix (t : Text) : stripEnd t <+: t := by
  rw [stripEnd_eq, ← List.reverse_suffix, List.reverse_reverse]
  exact List.dropWhile_suffix _

theorem trimmed_strip (t : Text) : Trimmed (strip t) := by
  refine ⟨fun c hc => ?_, last_stripEnd _⟩
  obtain ⟨rest, hrest⟩ := stripEnd_prefix (stripStart t)
  refine first_stripStart t c ?_
  rw [← hrest, List.head?_append]
  rw [strip] at hc
  rw [hc]
  rfl

theorem Trimmed.strip_eq (h : Trimmed t) : strip t = t := by
  rw [strip, stripStart_of_first h.first, stripEnd_of_last h.last]

theorem trimmed_of_forall (h : ∀ c ∈ t, isBlankChar c = false) : Trimmed t :=
  ⟨fun c hc => h c (List.mem_of_head? hc), fun c hc => h c (List.mem_of_getLast? hc)⟩

theorem isBlank_strip (t : Text) : isBlank (strip t) = isBlank t := by
  rw [Bool.eq_iff_iff, ← strip_eq_nil_iff, ← strip_eq_nil_iff, (trimmed_strip t).strip_eq]

/-! ## Rows -/

/-- A text that is not empty and ends in one blank, with a blank neither before it nor at the start. -/
def IsRow (t : Text) : Prop := ∃ u, u ≠ [] ∧ Trimmed u ∧ t = u ++ [' ']

/-- **Stripping a row takes its last blank**, and nothing else. -/
theorem IsRow.strip_append (h : IsRow t) : strip t ++ [' '] = t := by
  obtain ⟨u, hne, hu, rfl⟩ := h
  have hstart : stripStart (u ++ [' ']) = u ++ [' '] := by
    refine stripStart_of_first fun c hc => hu.first c ?_
    rwa [List.head?_append_of_ne_nil _ hne] at hc
  have hend : stripEnd (u ++ [' ']) = stripEnd u := by
    rw [stripEnd_eq, stripEnd_eq, List.reverse_concat]
    exact congrArg List.reverse (List.dropWhile_cons_of_pos (by decide))
  rw [strip, hstart, hend, stripEnd_of_last hu.last]

theorem IsRow.ne_nil (h : IsRow t) : t ≠ [] := by
  obtain ⟨u, -, -, rfl⟩ := h
  exact List.concat_ne_nil _ _

/-- A text that begins with something and ends in something and a blank. -/
theorem isRow_of_ends (hne : t ≠ []) (hfirst : ∀ c, t.head? = some c → isBlankChar c = false)
    (hc : isBlankChar c = false) (u : Text) : IsRow (t ++ u ++ [c, ' ']) := by
  refine ⟨t ++ u ++ [c], List.concat_ne_nil _ _, ⟨fun d hd => hfirst d ?_, fun d hd => ?_⟩, by simp⟩
  · rwa [List.append_assoc, List.head?_append_of_ne_nil _ hne] at hd
  · rw [List.getLast?_concat] at hd
    exact Option.some.inj hd ▸ hc

/-- What stands before a row, without a blank at its start. -/
theorem IsRow.behind (h : IsRow u) (hfirst : ∀ c, t.head? = some c → isBlankChar c = false) :
    IsRow (t ++ u) := by
  obtain ⟨v, hne, hv, rfl⟩ := h
  refine ⟨t ++ v, List.append_ne_nil_of_right_ne_nil t hne, ⟨fun c hc => ?_, fun c hc => ?_⟩, by simp⟩
  · cases t with
    | nil => exact hv.first c hc
    | cons d t => exact hfirst c hc
  · rw [List.getLast?_append_of_ne_nil _ hne] at hc
    exact hv.last c hc

theorem IsRow.append (h : IsRow t) (hu : IsRow u) : IsRow (t ++ u) := by
  obtain ⟨v, hne, hv, rfl⟩ := h
  refine hu.behind fun c hc => hv.first c ?_
  rwa [List.head?_append_of_ne_nil _ hne] at hc

/-- Texts of which each is empty or a row, one after the other. -/
theorem isRow_flatten {ts : List Text} (h : ∀ t ∈ ts, t ≠ [] → IsRow t) (hne : ts.flatten ≠ []) :
    IsRow ts.flatten := by
  induction ts with
  | nil => exact absurd rfl hne
  | cons t ts ih =>
    have hrest := ih fun u hu => h u (List.mem_cons_of_mem t hu)
    rw [List.flatten_cons] at hne ⊢
    by_cases ht : t = []
    · rw [ht, List.nil_append] at hne ⊢
      exact hrest hne
    · have hrow := h t List.mem_cons_self ht
      by_cases hts : ts.flatten = []
      · rwa [hts, List.append_nil]
      · exact hrow.append (hrest hts)

end SearchQuery.Text

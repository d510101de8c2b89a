/-
  Where the blanks of a query's text stand.

  Whatever a call writes, if it writes anything, is a row: it begins with a mark, a bracket, a name or a
  caret, it ends in a closing bracket or a digit, and behind that stands its one blank.  So a text that is
  made of such pieces loses its last blank and nothing else when it is stripped.  A name has to be stripped
  for that; a literal may have blanks at its ends, as its brackets are around them.
-/
import SearchQuery.Proofs.Number.Alphabet
import SearchQuery.Proofs.Query.Growth
import SearchQuery.Proofs.Text.Strip

namespace SearchQuery

open Text (IsRow isBlankChar)

theorem Modifier.first_mark (m : Modifier) : ∀ c, m.mark.head? = some c → isBlankChar c = false := by
  intro c hc
  have hmark : m.mark = m.occurrence.mark := rfl
  rw [hmark] at hc
  cases ho : m.occurrence <;> rw [ho] at hc
  · cases hc
  · cases hc; decide
  · cases hc; decide

/-- A mark, something that begins without a blank, and a closing character. -/
theorem isRow_marked (m : Modifier) {t : Text} {c : Char} (hne : t ≠ [])
    (hfirst : ∀ d, t.head? = some d → isBlankChar d = false) (hc : isBlankChar c = false) (u : Text) :
    IsRow (m.mark ++ (t ++ (u ++ [c, ' ']))) := by
  rw [← List.append_assoc t]
  exact (Text.isRow_of_ends hne hfirst hc u).behind m.first_mark

theorem isRow_renderLiteral {m : Modifier} {v : Text} (h : renderLiteral m v ≠ []) :
    IsRow (renderLiteral m v) := by
  have hrow := isRow_marked m (c := ')') (List.cons_ne_nil '(' [])
    (Text.first_singleton (by decide)) (by decide)
    (m.body v ++ if m.splits v then renderTokens m v else [])
  unfold renderLiteral at h ⊢
  by_cases hv : Text.isBlank v = true
  · rw [if_pos hv] at h; exact absurd rfl h
  · rw [if_neg hv]
    simpa only [List.append_assoc] using hrow

theorem isRow_renderClause {m : Modifier} {t : Text} (h : renderClause m t ≠ []) :
    IsRow (renderClause m t) := by
  have hrow := isRow_marked m (c := ')') (List.cons_ne_nil '(' [])
    (Text.first_singleton (by decide)) (by decide) t
  unfold renderClause at h ⊢
  by_cases ht : t.isEmpty = true
  · rw [if_pos ht] at h; exact absurd rfl h
  · rw [if_neg ht]
    simpa only [List.append_assoc] using hrow

theorem isRow_renderField (m : Modifier) {name : Text} (hne : name ≠ []) (hname : name.Trimmed)
    (inner : Text) : IsRow (renderField m name inner none) := by
  have hrow := isRow_marked m (c := ')') hne hname.first (by decide)
    ([':', '('] ++ if inner.isEmpty then ['"', '"'] else inner)
  have heq : renderField m name inner none = m.mark ++ (name ++ ([':', '(']
      ++ (if inner.isEmpty then ['"', '"'] else inner) ++ [')', ' '])) := by
    simp [renderField, renderOpening]
  rw [heq]
  exact hrow

theorem isRow_renderRange (m : Modifier) {name : Text} (hne : name ≠ []) (hname : name.Trimmed)
    (own : Text) (start stop : Bound) : IsRow (renderRange own (some name) start stop m) := by
  have hempty : name.isEmpty = false := by simpa using hne
  let lead := (Query.rangeLead (some name) m).flatten
  let star : Text := if m.wildcarded then ['*'] else []
  have hlead : lead = m.mark ++ (name ++ [':']) := by simp [lead, Query.rangeLead, hempty]
  have hrow := isRow_marked m (c := ']') hne hname.first (by decide)
    ([':'] ++ ['['] ++ Text.escapeAll (start.textIn (own ++ lead)) ++ star ++ [' ', 'T', 'O', ' ']
      ++ Text.escapeAll (stop.textIn (own ++ lead)) ++ star)
  have heq : renderRange own (some name) start stop m
      = lead ++ ['['] ++ Text.escapeAll (start.textIn (own ++ lead)) ++ star ++ [' ', 'T', 'O', ' ']
        ++ Text.escapeAll (stop.textIn (own ++ lead)) ++ star ++ [']', ' '] := rfl
  rw [heq, hlead]
  rw [hlead] at hrow
  simpa only [List.append_assoc] using hrow

/-- A boost that is written is a row. -/
theorem isRow_renderBoost {f : Number} (h : renderBoost f ≠ []) : IsRow (renderBoost f) := by
  have halphabet : ∀ c ∈ '^' :: (Boost.cut f).text, isBlankChar c = false := by
    intro c hc
    rcases List.mem_cons.mp hc with rfl | hc
    · decide
    · have hall : Number.alphabet.all (fun c => !isBlankChar c) = true := by decide
      simpa using List.all_eq_true.mp hall c ((Boost.cut f).forall_mem_text c hc)
  unfold renderBoost at h ⊢
  by_cases hone : f.equal (.int 1) = true
  · rw [if_pos hone] at h; exact absurd rfl h
  · rw [if_neg hone]
    exact ⟨_, List.cons_ne_nil _ _, Text.trimmed_of_forall halphabet, rfl⟩

end SearchQuery

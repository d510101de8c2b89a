/-
  Escaping in one pass.

  Values are escaped by two passes, and so are phrases.  The second pass never meets a character
  that the first one escaped nor a backslash that it put in, so both passes together are one pass
  over the characters of either (`escapeIf_escapeIf`): a literal is one pass of `isReserved`
  (`escapeAll_eq`), the inside of a phrase one pass of `isPhraseMark` (`phrase_eq`).

  An escaped text says by itself where it ends: the first escaped character that stands bare behind
  it does not belong to it (`escapeIf_append_inj`).
-/
import SearchQuery.Query.Literal

namespace SearchQuery.Text

/-- Whether a character is escaped in a literal. -/
def isReserved (c : Char) : Bool := isSpecialOrBlank c || isQuote c

/-- Whether a character is escaped inside of a phrase. -/
def isPhraseMark (c : Char) : Bool := c == '\\' || isQuote c

theorem escapeIf_cons_pos {p : Char → Bool} {c : Char} (hc : p c = true) (t : Text) :
    escapeIf p (c :: t) = '\\' :: c :: escapeIf p t := by
  rw [escapeIf, if_pos hc]

theorem escapeIf_cons_neg {p : Char → Bool} {c : Char} (hc : p c = false) (t : Text) :
    escapeIf p (c :: t) = c :: escapeIf p t := by
  rw [escapeIf, hc, if_neg Bool.false_ne_true]

/-- Two passes are one, if the second leaves alone what the first escapes and puts in. -/
theorem escapeIf_escapeIf {p q : Char → Bool} (hq : q '\\' = false)
    (hpq : ∀ c, p c = true → q c = false) (t : Text) :
    escapeIf q (escapeIf p t) = escapeIf (fun c => p c || q c) t := by
  induction t with
  | nil => rfl
  | cons c t ih =>
    cases hp : p c with
    | true => simp [escapeIf, hp, hq, hpq c hp, ih]
    | false => simp [escapeIf, hp, ih]

theorem isQuote_of_isSpecialOrBlank {c : Char} (h : isSpecialOrBlank c = true) :
    isQuote c = false := by
  by_cases hc : c = '"'
  · subst hc; exact absurd h (by decide)
  · simp [isQuote, hc]

theorem escapeAll_eq (t : Text) : escapeAll t = escapeIf isReserved t :=
  escapeIf_escapeIf (by decide) (fun _ h => isQuote_of_isSpecialOrBlank h) t

theorem phrase_eq (t : Text) : phrase t = '"' :: escapeIf isPhraseMark t ++ ['"'] := by
  have hpass : escapeQuotes (escapeIf (· == '\\') t) = escapeIf isPhraseMark t := by
    refine escapeIf_escapeIf (by decide) (fun c hc => ?_) t
    obtain rfl : c = '\\' := by simpa using hc
    decide
  rw [phrase, hpass]

/-- An escaped text that is not empty never begins with a bare stop. -/
theorem escapeIf_cons_ne_stop {p : Char → Bool} {c : Char} (hc : p c = true ∧ c ≠ '\\') (a : Char)
    (s r r' : Text) : escapeIf p (a :: s) ++ r ≠ c :: r' := by
  intro h
  cases ha : p a with
  | true =>
    rw [escapeIf_cons_pos ha] at h
    exact hc.2 (List.cons.inj h).1.symm
  | false =>
    rw [escapeIf_cons_neg ha] at h
    rw [(List.cons.inj h).1, hc.1] at ha
    exact Bool.noConfusion ha

/-- **Escaped texts delimit themselves.**  Two escaped texts, each with something behind it that
    begins with a bare stop, are the same text when the whole is the same. -/
theorem escapeIf_append_inj {p : Char → Bool} (hslash : p '\\' = true) {c c' : Char}
    (hc : p c = true ∧ c ≠ '\\') (hc' : p c' = true ∧ c' ≠ '\\') :
    ∀ (s s' : Text) {r r' : Text}, escapeIf p s ++ c :: r = escapeIf p s' ++ c' :: r' → s = s'
  | [], [], _, _, _ => rfl
  | [], b :: s', r, r', h => absurd h.symm (escapeIf_cons_ne_stop hc b s' _ r)
  | a :: s, [], r, r', h => absurd h (escapeIf_cons_ne_stop hc' a s _ r')
  | a :: s, b :: s', r, r', h => by
    cases ha : p a with
    | true =>
      rw [escapeIf_cons_pos ha] at h
      cases hb : p b with
      | true =>
        rw [escapeIf_cons_pos hb] at h
        obtain ⟨hab, hrest⟩ := List.cons.inj (List.cons.inj h).2
        rw [hab, escapeIf_append_inj hslash hc hc' s s' hrest]
      | false =>
        -- The backslash in front of `a` would have to stand bare for `b`.
        rw [escapeIf_cons_neg hb] at h
        rw [← (List.cons.inj h).1, hslash] at hb
        exact Bool.noConfusion hb
    | false =>
      rw [escapeIf_cons_neg ha] at h
      cases hb : p b with
      | true =>
        rw [escapeIf_cons_pos hb] at h
        rw [(List.cons.inj h).1, hslash] at ha
        exact Bool.noConfusion ha
      | false =>
        rw [escapeIf_cons_neg hb] at h
        obtain ⟨hab, hrest⟩ := List.cons.inj h
        rw [hab, escapeIf_append_inj hslash hc hc' s s' hrest]

end SearchQuery.Text

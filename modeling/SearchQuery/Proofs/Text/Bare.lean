/-
  Reading up to a character that stands bare.

  A reader of an escaped text looks for the characters that have a meaning of their own: the blank
  behind a word, the quote that closes a phrase, the bracket that closes a range.  A backslash takes
  the meaning away from the character behind it, so the reader steps over both.

  1. **Program** — `untilBare p t`: what stands in front of the first bare character of a class, and
     the rest from that character on.  Nothing is lost (`untilBare_append`).
  2. **Escaped texts are stepped over (`untilBare_escapeIf`)** — whatever is in them, if the escaping
     is for all the characters that are looked for; what follows decides where the reader stops.
-/
import SearchQuery.Proofs.Text.Reading

namespace SearchQuery.Text

/-! ## The program -/

/-- What stands in front of the first bare character that `p` holds of, and what follows from that
    character on. -/
def untilBare (p : Char → Bool) : Text → Text × Text
  | [] => ([], [])
  | ['\\'] => (['\\'], [])
  | '\\' :: c :: t => ('\\' :: c :: (untilBare p t).1, (untilBare p t).2)
  | c :: t => if p c then ([], c :: t) else (c :: (untilBare p t).1, (untilBare p t).2)

variable {p q : Char → Bool}

theorem untilBare_escaped (c : Char) (t : Text) :
    untilBare p ('\\' :: c :: t) = ('\\' :: c :: (untilBare p t).1, (untilBare p t).2) := by
  rw [untilBare]

theorem untilBare_bare {c : Char} (hc : c ≠ '\\') (t : Text) :
    untilBare p (c :: t) =
      if p c then ([], c :: t) else (c :: (untilBare p t).1, (untilBare p t).2) := by
  rw [untilBare]
  · rintro rfl
    exact absurd rfl hc
  · rintro d u rfl
    exact absurd rfl hc

/-- The reader stops in front of a bare character of the class. -/
theorem untilBare_stop {c : Char} (hc : c ≠ '\\') (hp : p c = true) (t : Text) :
    untilBare p (c :: t) = ([], c :: t) := by
  rw [untilBare_bare hc, if_pos hp]

/-- The reader steps over a bare character of no interest. -/
theorem untilBare_step {c : Char} (hc : c ≠ '\\') (hp : p c = false) (t : Text) :
    untilBare p (c :: t) = (c :: (untilBare p t).1, (untilBare p t).2) := by
  rw [untilBare_bare hc, hp, if_neg Bool.false_ne_true]

/-- Nothing is lost. -/
theorem untilBare_append (p : Char → Bool) (t : Text) :
    (untilBare p t).1 ++ (untilBare p t).2 = t := by
  fun_induction untilBare p t with
  | case1 => rfl
  | case2 => rfl
  | case3 c t ih => simp [ih]
  | case4 c t _ _ hc => rfl
  | case5 c t _ _ hc ih => simp [ih]

theorem length_untilBare_le (p : Char → Bool) (t : Text) :
    (untilBare p t).2.length ≤ t.length := by
  have h := congrArg List.length (untilBare_append p t)
  rw [List.length_append] at h
  omega

/-! ## Texts that are stepped over -/

/-- Characters that are neither of the class nor a backslash are stepped over. -/
theorem untilBare_plain {s : Text} (hs : ∀ c ∈ s, c ≠ '\\' ∧ p c = false) (t : Text) :
    untilBare p (s ++ t) = (s ++ (untilBare p t).1, (untilBare p t).2) := by
  induction s with
  | nil => rfl
  | cons c s ih =>
    obtain ⟨hc, hp⟩ := hs c List.mem_cons_self
    rw [List.cons_append, untilBare_step hc hp, ih fun d hd => hs d (List.mem_cons_of_mem c hd)]
    rfl

/-- **An escaped text is stepped over**, if every character that is looked for is escaped. -/
theorem untilBare_escapeIf (hslash : q '\\' = true) (hpq : ∀ c, p c = true → q c = true)
    (s t : Text) :
    untilBare p (escapeIf q s ++ t) = (escapeIf q s ++ (untilBare p t).1, (untilBare p t).2) := by
  induction s with
  | nil => rfl
  | cons c s ih =>
    cases hc : q c with
    | true =>
      rw [escapeIf_cons_pos hc, List.cons_append, List.cons_append, untilBare_escaped, ih]
      rfl
    | false =>
      -- What is not escaped is no backslash, and nothing that is looked for.
      have hbare : c ≠ '\\' := by
        rintro rfl
        rw [hslash] at hc
        cases hc
      have hp : p c = false := by
        cases hpc : p c with
        | false => rfl
        | true => rw [hpq c hpc] at hc; cases hc
      rw [escapeIf_cons_neg hc, List.cons_append, untilBare_step hbare hp, ih]
      rfl

/-- An escaped text ends at the bare character behind it. -/
theorem untilBare_escapeIf_stop (hslash : q '\\' = true) (hpq : ∀ c, p c = true → q c = true)
    {c : Char} (hc : c ≠ '\\') (hp : p c = true) (s t : Text) :
    untilBare p (escapeIf q s ++ c :: t) = (escapeIf q s, c :: t) := by
  rw [untilBare_escapeIf hslash hpq, untilBare_stop hc hp, List.append_nil]

example : untilBare (· == ' ') "a\\ b c" = ("a\\ b".toList, " c".toList) := by decide

end SearchQuery.Text

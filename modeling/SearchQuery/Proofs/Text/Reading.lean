/-
  Escaped texts can be read back.

  A backslash announces a literal character, and it is itself among the characters that every
  escaping puts a backslash in front of.  So a reader from left to right meets, for each character
  of the text, either the character or a backslash and the character, and never has to guess which
  of the two a backslash is.

  1. **One pass (`readMarks_escapeIf`)** — by induction on the text: reading gives every character
     back, and those that are escaped, and no others, with the mark that they do not stand bare.
  2. **The escapings (`Escaping.exact`)** — the three ways of escaping a literal are one pass each,
     `escapeAll` too, although it is made of two.  Hence they can be inverted, leave nothing bare
     that they escape, and go letter by letter.
-/
import SearchQuery.Proofs.Text.Escaped

namespace SearchQuery.Text

/-! ## Reading character by character -/

theorem readMarks_escaped (c : Char) (t : Text) :
    readMarks ('\\' :: c :: t) = (readMarks t).map ((c, false) :: ·) := by
  rw [readMarks]

theorem readMarks_bare {c : Char} (hc : c ≠ '\\') (t : Text) :
    readMarks (c :: t) = (readMarks t).map ((c, true) :: ·) := by
  rw [readMarks]
  · rintro rfl
    exact absurd rfl hc
  · rintro d u rfl
    exact absurd rfl hc

/-! ## One pass -/

section Pass

variable {p : Char → Bool} (hslash : p '\\' = true)
include hslash

/-- An escaped text is read up to where it ends, and what stands behind it as if it stood alone. -/
theorem readMarks_escapeIf_append (t u : Text) :
    readMarks (escapeIf p t ++ u) = (readMarks u).map (t.map (fun c => (c, !p c)) ++ ·) := by
  induction t with
  | nil => exact Option.map_id'.symm
  | cons c t ih =>
    cases hc : p c with
    | true =>
      rw [escapeIf_cons_pos hc, List.cons_append, List.cons_append, readMarks_escaped, ih,
        Option.map_map]
      simp [hc, Function.comp_def]
    | false =>
      -- A character that is not escaped is no backslash, so it announces nothing.
      have hbare : c ≠ '\\' := by
        rintro rfl
        rw [hslash] at hc
        cases hc
      rw [escapeIf_cons_neg hc, List.cons_append, readMarks_bare hbare, ih, Option.map_map]
      simp [hc, Function.comp_def]

/-- **One pass is read back** with a mark for every character: it stands bare unless it is of the
    class that is escaped. -/
theorem readMarks_escapeIf (t : Text) :
    readMarks (escapeIf p t) = some (t.map fun c => (c, !p c)) := by
  have h := readMarks_escapeIf_append hslash t []
  simpa [readMarks] using h

theorem decode_escapeIf (t : Text) : decode (escapeIf p t) = some t := by
  rw [decode, readMarks_escapeIf hslash, Option.map_some, List.map_map]
  exact congrArg some (List.map_id t)

theorem noneBare_escapeIf (t : Text) : noneBare p (escapeIf p t) = true := by
  rw [noneBare, readMarks_escapeIf hslash]
  simp

theorem escapeIf_inj {s t : Text} (h : escapeIf p s = escapeIf p t) : s = t := by
  have hread := decode_escapeIf hslash s
  rw [h, decode_escapeIf hslash t] at hread
  exact (Option.some.inj hread).symm

end Pass

/-! ## The escapings -/

/-- A way of treating texts which escapes the characters of a class and does nothing else: it can be
    read back, and what is read stands bare exactly if it is not of the class. -/
structure Escaping.Exact (e : Escaping) (p : Char → Bool) : Prop where
  /-- no backslash is left over at the end, and every character is read as it was escaped -/
  marks : ∀ t, readMarks (e.apply (some t)) = some (t.map fun c => (c, !p c))
  decodes : ∀ t, decode (e.apply (some t)) = some t
  noneBare : ∀ t, noneBare p (e.apply (some t)) = true
  injective : ∀ s t, e.apply (some s) = e.apply (some t) → s = t
  append : ∀ s t, e.apply (some (s ++ t)) = e.apply (some s) ++ e.apply (some t)

/-- A way of treating texts that is one pass over a class to which the backslash belongs. -/
theorem Escaping.exact_of_pass {e : Escaping} {p : Char → Bool}
    (he : ∀ t, e.apply (some t) = escapeIf p t) (hslash : p '\\' = true) : e.Exact p where
  marks t := by rw [he]; exact readMarks_escapeIf hslash t
  decodes t := by rw [he]; exact decode_escapeIf hslash t
  noneBare t := by rw [he]; exact noneBare_escapeIf hslash t
  injective s t h := by
    rw [he, he] at h
    exact escapeIf_inj hslash h
  append s t := by rw [he, he, he]; exact escapeIf_append p s t

/-- **Escaping can be undone and is complete**, for each of the three ways of escaping a literal and
    the characters that it is for. -/
theorem Escaping.exact :
    Escaping.all.Exact (fun c => specials.contains c || c == ' ' || c == '"') ∧
      Escaping.withBlanks.Exact (fun c => specials.contains c || c == ' ') ∧
      Escaping.keepBlanks.Exact (fun c => specials.contains c) :=
  ⟨exact_of_pass escapeAll_eq (by decide), exact_of_pass (fun _ => rfl) (by decide),
    exact_of_pass (fun _ => rfl) (by decide)⟩

example : Escaping.all.apply (some "\\\"".toList) = "\\\\\\\"".toList ∧
    decode (Escaping.all.apply (some "\\\"".toList)) = some "\\\"".toList := by decide

end SearchQuery.Text

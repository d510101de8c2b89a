/-
  Stripping the specials absorbs escaping.

  To strip a text is to delete the specials and blanks from it and to escape the quotes that are
  left.  All that any escaping puts into a text is backslashes, and a backslash is among the specials.
  So a text that was escaped before, or stripped before, loses again what it was given.

  1. **Deletion (`filter_escapeIf`)** — by induction on the text: what is kept by a class without the
     backslash is the same before and after a pass, whatever the pass is for.
  2. **What is left (`stripSpecials_eq`)** — nothing in it but quotes needs a backslash, so escaping
     its quotes is escaping it as a literal.  Reading a stripped text back is then reading a literal.
  3. **The escapings (`Escaping.stripping_absorbs`)** — all ways of treating a text are absorbed,
     apart from the deletion of quotes.
-/
import SearchQuery.Proofs.Text.Reading

namespace SearchQuery.Text

/-- Whether a character is left when the specials and blanks are deleted. -/
def isPlain (c : Char) : Bool := !isSpecialOrBlank c

/-! ## Deletion -/

/-- **A pass puts in nothing but backslashes**, so a deletion that takes those takes back the pass. -/
theorem filter_escapeIf {keep : Char → Bool} (hslash : keep '\\' = false) (p : Char → Bool)
    (t : Text) : (escapeIf p t).filter keep = t.filter keep := by
  induction t with
  | nil => rfl
  | cons c t ih =>
    cases hc : p c with
    | true =>
      have hdropped : ('\\' :: c :: escapeIf p t).filter keep = (c :: escapeIf p t).filter keep :=
        List.filter_cons_of_neg (by simp [hslash])
      rw [escapeIf_cons_pos hc, hdropped, List.filter_cons, List.filter_cons, ih]
    | false => rw [escapeIf_cons_neg hc, List.filter_cons, List.filter_cons, ih]

/-- What is deleted before a pass need not be deleted behind it. -/
theorem filter_escapeIf_filter {keep : Char → Bool} (hslash : keep '\\' = false) (p : Char → Bool)
    (t : Text) : (escapeIf p (t.filter keep)).filter keep = t.filter keep := by
  rw [filter_escapeIf hslash, List.filter_filter]
  simp only [Bool.and_self]

/-! ## What is left -/

theorem escapeIf_congr {p q : Char → Bool} {t : Text} (h : ∀ c ∈ t, p c = q c) :
    escapeIf p t = escapeIf q t := by
  induction t with
  | nil => rfl
  | cons c t ih =>
    have hrest := ih fun d hd => h d (List.mem_cons_of_mem c hd)
    simp only [escapeIf, h c List.mem_cons_self, hrest]

/-- **A stripped text is a literal**: what is left of the text, escaped as literals are. -/
theorem stripSpecials_eq (t : Text) : stripSpecials t = escapeIf isReserved (t.filter isPlain) := by
  refine escapeIf_congr fun c hc => ?_
  have hplain : isSpecialOrBlank c = false := by simpa [isPlain] using (List.mem_filter.mp hc).2
  rw [isReserved, hplain, Bool.false_or]

theorem stripSpecials_escapeIf (p : Char → Bool) (t : Text) :
    stripSpecials (escapeIf p t) = stripSpecials t := by
  rw [stripSpecials_eq, stripSpecials_eq, filter_escapeIf (by decide)]

theorem stripSpecials_filter (p : Char → Bool) (t : Text) :
    stripSpecials (escapeIf p (t.filter isPlain)) = stripSpecials t := by
  rw [stripSpecials_eq, stripSpecials_eq, filter_escapeIf_filter (by decide)]

/-! ## The escapings -/

/-- **Stripping absorbs every escaping, and itself.**  Only the deletion of quotes is not absorbed, as
    stripping keeps them.  A stripped text is read back as what is left when specials and blanks are
    deleted, and neither these nor a quote stand bare in it.  An absent text counts as the empty
    one. -/
theorem Escaping.stripping_absorbs :
    (∀ e : Escaping, (∀ t, Escaping.stripSpecials.apply (some (e.apply t))
        = Escaping.stripSpecials.apply t) ↔ e ≠ .removeQuotes) ∧
      ∀ t, decode (Escaping.stripSpecials.apply t)
          = some ((t.getD []).filter fun c => !(specials.contains c || c == ' ')) ∧
        noneBare (fun c => specials.contains c || c == ' ' || c == '"')
          (Escaping.stripSpecials.apply t) = true := by
  refine ⟨fun e => ?_, fun t => ?_⟩
  · cases e with
    | all =>
      refine iff_of_true (fun t => ?_) (by decide)
      have hpass : Escaping.all.apply t = escapeIf isReserved (t.getD []) := escapeAll_eq _
      rw [hpass]
      exact stripSpecials_escapeIf isReserved (t.getD [])
    | withBlanks => exact iff_of_true (fun t => stripSpecials_escapeIf isSpecialOrBlank _) (by decide)
    | keepBlanks => exact iff_of_true (fun t => stripSpecials_escapeIf isSpecial _) (by decide)
    | quotes => exact iff_of_true (fun t => stripSpecials_escapeIf isQuote _) (by decide)
    | stripSpecials => exact iff_of_true (fun t => stripSpecials_filter isQuote _) (by decide)
    | removeQuotes =>
      refine iff_of_false (fun h => ?_) (by decide)
      exact absurd (h (some ['"'])) (by decide)
  · have hstripped : Escaping.stripSpecials.apply t = escapeIf isReserved ((t.getD []).filter isPlain) :=
      stripSpecials_eq _
    rw [hstripped]
    exact ⟨decode_escapeIf (by decide) _, noneBare_escapeIf (by decide) _⟩

example : Escaping.stripSpecials.apply (some "a\\\"(b c)\"".toList) = "a\\\"bc\\\"".toList ∧
    Escaping.stripSpecials.apply (some "a\\\"bc\\\"".toList) = "a\\\"bc\\\"".toList := by decide

end SearchQuery.Text

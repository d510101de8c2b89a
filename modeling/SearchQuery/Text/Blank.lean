/-
  Blank characters, blank texts, and taking the blanks off the ends.

  A character is blank when it is Unicode white space or one of the four separators U+001C to
  U+001F: 29 characters.  The zero-width space and the byte-order mark are not blank.
-/
import SearchQuery.Text.Ranges

namespace SearchQuery.Text

/-- The blank characters. -/
def blankRanges : List (Nat × Nat) :=
  [(0x9, 0xD), (0x1C, 0x20), (0x85, 0x85), (0xA0, 0xA0), (0x1680, 0x1680), (0x2000, 0x200A),
   (0x2028, 0x2029), (0x202F, 0x202F), (0x205F, 0x205F), (0x3000, 0x3000)]

/-- Whether a character is blank. -/
def isBlankChar (c : Char) : Bool := inRanges blankRanges c.toNat

/-- A text is blank when all its characters are; the empty text is. -/
def isBlank (t : Text) : Bool := t.all isBlankChar

/-- A text without the blanks at its start. -/
def stripStart (t : Text) : Text := t.dropWhile isBlankChar

/-- A text without the blanks at its end. -/
def stripEnd (t : Text) : Text := (t.reverse.dropWhile isBlankChar).reverse

/-- A text without the blanks at its ends. -/
def strip (t : Text) : Text := stripEnd (stripStart t)

/-- Whether a text that may be absent gives nothing to search for. -/
def isMissing : Option Text → Bool
  | none => true
  | some t => isBlank t

/-! ## What is blank is what strips to nothing -/

theorem stripStart_eq_nil_iff {t : Text} : stripStart t = [] ↔ isBlank t = true := by
  induction t with
  | nil => simp [stripStart, isBlank]
  | cons c t ih =>
    simp only [stripStart, isBlank] at ih ⊢
    by_cases h : isBlankChar c = true
    · simp [h, ih]
    · simp [h]

theorem stripEnd_eq_nil_iff {t : Text} : stripEnd t = [] ↔ isBlank t = true := by
  have h := @stripStart_eq_nil_iff t.reverse
  simp only [stripStart, isBlank, List.all_reverse] at h
  simp [stripEnd, isBlank, h]

theorem isBlank_of_isBlank_stripStart {t : Text} (h : isBlank (stripStart t) = true) :
    isBlank t = true := by
  induction t with
  | nil => rfl
  | cons c t ih =>
    simp only [stripStart, isBlank] at ih h ⊢
    by_cases hc : isBlankChar c = true
    · simp only [hc, List.dropWhile_cons_of_pos] at h
      simp [hc, ih h]
    · simp [hc] at h

/-- **A text is blank exactly when nothing is left after stripping.** -/
theorem strip_eq_nil_iff {t : Text} : strip t = [] ↔ isBlank t = true := by
  rw [strip, stripEnd_eq_nil_iff]
  constructor
  · exact isBlank_of_isBlank_stripStart
  · intro h
    rw [stripStart_eq_nil_iff.mpr h]; rfl

example : strip "\u3000 a b\n" = "a b".toList := by decide
example : isBlankChar '\u200b' = false ∧ isBlankChar '\u001c' = true := by decide

end SearchQuery.Text

/-
  Escaping: making a query parser read a text as itself.

  A query parser gives a meaning of its own to eighteen characters, to the blank and to the double
  quote.  A backslash in front takes the meaning away, from the backslash too.

  1. **Program** — `escapeIf p` puts a backslash in front of every character that `p` holds of.  The
     six ways of treating a text (`Escaping`) are made of it and of deletion; the one used for every
     value that is written is `.all`, which runs two passes, one for the specials and blanks and one
     for the quotes.
  2. **Reading back** — `readMarks` goes from left to right, takes a backslash as the announcement
     of a literal character, and says of each character whether it stood bare; `decode` keeps the
     characters only.  A lone backslash at the end announces nothing, so such a text is not read.
-/
import SearchQuery.Text.Basic

namespace SearchQuery.Text

/-! ## The program -/

/-- The characters with a meaning of their own, the backslash among them. -/
def specials : Text :=
  ['\\', '+', '-', '&', '|', '!', '(', ')', '{', '}', '[', ']', '^', '~', '?', '*', ':', ';']

/-- Whether a character has a meaning of its own. -/
def isSpecial (c : Char) : Bool := specials.contains c

/-- Whether a character is special or the blank U+0020. -/
def isSpecialOrBlank (c : Char) : Bool := isSpecial c || c == ' '

/-- Whether a character is the double quote. -/
def isQuote (c : Char) : Bool := c == '"'

/-- A text with a backslash in front of every character that `p` holds of. -/
def escapeIf (p : Char → Bool) : Text → Text
  | [] => []
  | c :: t => if p c then '\\' :: c :: escapeIf p t else c :: escapeIf p t

/-- Specials and blanks escaped. -/
def escapeWithBlanks (t : Text) : Text := escapeIf isSpecialOrBlank t

/-- Specials escaped, blanks left as they are. -/
def escapeKeepBlanks (t : Text) : Text := escapeIf isSpecial t

/-- Double quotes escaped. -/
def escapeQuotes (t : Text) : Text := escapeIf isQuote t

/-- Double quotes deleted. -/
def removeQuotes (t : Text) : Text := t.filter fun c => !isQuote c

/-- Specials and blanks deleted, then double quotes escaped. -/
def stripSpecials (t : Text) : Text := escapeQuotes (t.filter fun c => !isSpecialOrBlank c)

/-- Specials, blanks and double quotes escaped: the text is then matched as it is. -/
def escapeAll (t : Text) : Text := escapeQuotes (escapeWithBlanks t)

/-- The ways of treating a text before it goes into a query. -/
inductive Escaping where
  | all
  | keepBlanks
  | quotes
  | withBlanks
  | removeQuotes
  | stripSpecials
  deriving DecidableEq, Repr

/-- The treated text.  An absent text counts as the empty one. -/
def Escaping.apply (e : Escaping) (t : Option Text) : Text :=
  let t := t.getD []
  match e with
  | .all => escapeAll t
  | .keepBlanks => escapeKeepBlanks t
  | .quotes => escapeQuotes t
  | .withBlanks => escapeWithBlanks t
  | .removeQuotes => Text.removeQuotes t
  | .stripSpecials => Text.stripSpecials t

/-! ## Reading back -/

/-- The characters that a text stands for, each with whether it stood bare, that is without a
    backslash in front.  Nothing when the text ends in a backslash that announces nothing. -/
def readMarks : Text → Option (List (Char × Bool))
  | [] => some []
  | ['\\'] => none
  | '\\' :: c :: t => (readMarks t).map ((c, false) :: ·)
  | c :: t => (readMarks t).map ((c, true) :: ·)

/-- The text that an escaped text stands for. -/
def decode (t : Text) : Option Text := (readMarks t).map (·.map Prod.fst)

/-- Whether a text can be read and no character that `p` holds of stands bare in it. -/
def noneBare (p : Char → Bool) (t : Text) : Bool :=
  match readMarks t with
  | none => false
  | some marks => marks.all fun (c, bare) => !(bare && p c)

/-! ## Escaping goes letter by letter -/

theorem escapeIf_append (p : Char → Bool) (s t : Text) :
    escapeIf p (s ++ t) = escapeIf p s ++ escapeIf p t := by
  induction s with
  | nil => rfl
  | cons c s ih =>
    simp only [List.cons_append, escapeIf, ih]
    split <;> simp

example : escapeAll "a \"b\"" = "a\\ \\\"b\\\"".toList := by decide
example : decode "a\\ \\\"b" = some "a \"b".toList := by decide
example : decode "a\\" = none := by decide

end SearchQuery.Text

/-
  Reading positions in a YAML text.

  A cursor is the text that is still to be read, and where it begins.  It is moved one character at a
  time, so that lines and columns are counted in one place: a line break begins a line, and a byte-order
  mark does not count in its line.

  Behind the end of a text the null character is seen, which no text holds.
-/
import SearchQuery.Text.Quoted
import SearchQuery.Yaml.Fault

namespace SearchQuery.Yaml

/-! ## Characters -/

/-- What is seen behind the end of a text. -/
def endMark : Char := '\x00'

/-- Whether a line ends at a character. -/
def isBreak (c : Char) : Bool := c = '\n' || c = '\u0085' || c = '\u2028' || c = '\u2029'

/-- Whether a line or the text ends at a character. -/
def endsLine (c : Char) : Bool := c = endMark || isBreak c

/-- Whether a word, in which tabs may stand, ends at a character. -/
def endsWord (c : Char) : Bool := c = ' ' || endsLine c

/-- Whether a token ends at a character: a blank, a tab, a line break or the end. -/
def endsToken (c : Char) : Bool := c = '\t' || endsWord c

/-- Whether a character is a letter, a digit, a dash or an underscore, all of ASCII. -/
def isNameChar (c : Char) : Bool := c.isAlphanum || c = '-' || c = '_'

/-- What a line break stands for in a scalar. -/
def breakText (c : Char) : Text := if c = '\u0085' then ['\n'] else [c]

/-- A text whose lines all end in line feeds. -/
def unixLines : Text → Text
  | '\r' :: '\n' :: t => '\n' :: unixLines t
  | '\r' :: t => '\n' :: unixLines t
  | c :: t => c :: unixLines t
  | [] => []

/-! ## Cursors -/

/-- The text that is still to be read, and where it begins. -/
structure Cursor where
  rest : Text
  /-- the number of characters before it -/
  index : Nat := 0
  line : Nat := 0
  column : Nat := 0
  deriving DecidableEq, Repr

namespace Cursor

/-- Where the cursor stands. -/
def mark (c : Cursor) : Mark := ⟨c.line, c.column⟩

/-- The character at the cursor. -/
def peek (c : Cursor) : Char := c.rest.headD endMark

/-- The character some places behind the cursor. -/
def peekAt (c : Cursor) (places : Nat) : Char := (c.rest.drop places).headD endMark

/-- The cursor behind the next character. -/
def step (c : Cursor) : Cursor :=
  match c.rest with
  | [] => c
  | d :: t =>
    if isBreak d then ⟨t, c.index + 1, c.line + 1, 0⟩
    else ⟨t, c.index + 1, c.line, if d = '\ufeff' then c.column else c.column + 1⟩

/-- The cursor behind some characters. -/
def advance (c : Cursor) : Nat → Cursor
  | 0 => c
  | n + 1 => c.step.advance n

/-- The longest run of characters of a class at the cursor, and the cursor behind it. -/
def span (c : Cursor) (p : Char → Bool) : Text × Cursor :=
  let run := c.rest.takeWhile p
  (run, c.advance run.length)

/-- The cursor behind the longest run of characters of a class. -/
def skip (c : Cursor) (p : Char → Bool) : Cursor := (c.span p).2

/-- The cursor behind the blanks in front of it. -/
def skipBlanks (c : Cursor) : Cursor := c.skip (· == ' ')

/-- The cursor behind the line break that may be at it. -/
def skipBreak (c : Cursor) : Cursor := if isBreak c.peek then c.step else c

/-- The cursor behind the comment that may be at it. -/
def skipComment (c : Cursor) : Cursor := if c.peek = '#' then c.skip fun d => !isBreak d else c

/-- Whether a line begins here, and with a marker between documents. -/
def atMarker (c : Cursor) (marker : Text) : Bool :=
  c.column = 0 && marker.isPrefixOf c.rest && endsToken (c.peekAt 3)

/-- Whether a document begins or ends here. -/
def atAnyMarker (c : Cursor) : Bool := c.atMarker ['-', '-', '-'] || c.atMarker ['.', '.', '.']

/-- The character at the cursor, as messages show it. -/
def shown (c : Cursor) : Text := Text.quoted [c.peek]

/-- The cursor at the next token, with `fuel` bounding the way there, and whether it is on a later line.
    Blanks, comments and line breaks are passed over, and a byte-order mark that begins the text. -/
def toTokenWithin : Nat → Bool → Cursor → Cursor × Bool
  | 0, later, c => (c, later)
  | fuel + 1, later, c =>
    let c := c.skipBlanks.skipComment
    if isBreak c.peek then toTokenWithin fuel true c.step else (c, later)

/-- The cursor at the next token, and whether it is on a later line. -/
def toToken (c : Cursor) : Cursor × Bool :=
  let c := if c.index = 0 && c.peek = '\ufeff' then c.step else c
  toTokenWithin (c.rest.length + 1) false c

end Cursor

example : (Cursor.toToken ⟨"  # note\n\n  a".toList, 0, 0, 0⟩) = (⟨['a'], 12, 2, 2⟩, true) := by
  decide

end SearchQuery.Yaml

/-
  Scalars in quotes.

  In single quotes a quote is written twice and everything else stands for itself.  In double quotes
  a backslash begins an escape.  In both, a line break with the blanks around it counts as a blank, and of
  several line breaks the first does not count.  A quotation does not go on behind a marker between
  documents.
-/
import SearchQuery.Yaml.Plain

namespace SearchQuery.Yaml

/-! ## Escapes -/

/-- The value of a hexadecimal digit. -/
def hexDigit? (c : Char) : Option Nat :=
  if '0' ≤ c && c ≤ '9' then some (c.toNat - '0'.toNat)
  else if 'a' ≤ c && c ≤ 'f' then some (c.toNat - 'a'.toNat + 10)
  else if 'A' ≤ c && c ≤ 'F' then some (c.toNat - 'A'.toNat + 10)
  else none

/-- The number that a text with hexadecimal digits stands for; other characters do not count. -/
def hexValue (digits : Text) : Nat :=
  (digits.filterMap hexDigit?).foldl (fun n d => n * 16 + d) 0

/-- What a character behind a backslash stands for. -/
def escaped? (c : Char) : Option Char :=
  ([('0', 0x0), ('a', 0x7), ('b', 0x8), ('t', 0x9), ('\t', 0x9), ('n', 0xA), ('v', 0xB), ('f', 0xC),
    ('r', 0xD), ('e', 0x1B), (' ', 0x20), ('"', 0x22), ('\\', 0x5C), ('/', 0x2F), ('N', 0x85),
    ('_', 0xA0), ('L', 0x2028), ('P', 0x2029)].lookup c).map Char.ofNat

/-- How many hexadecimal digits follow behind a backslash and a character. -/
def escapeWidth? (c : Char) : Option Nat := [('x', 2), ('u', 4), ('U', 8)].lookup c

/-- The character with a number. -/
def character (code : Nat) : Except Refusal Char :=
  if 0x7FFFFFFF < code then .error (.breakdown .hugeCharacter)
  else if 0x10FFFF < code then .error (.invalid "chr() arg not in range(0x110000)")
  else .ok (Char.ofNat code)

/-- The fault of something in double quotes that began at `start`. -/
def inDoubleQuotes (start : Mark) (problem : Text) (c : Cursor) : Refusal :=
  .within "while scanning a double-quoted scalar" start problem c.mark

/-- The character that an escape of some hexadecimal digits stands for, and the cursor behind them. -/
def numberedEscape (start : Mark) (width : Nat) (c : Cursor) : Except Refusal (Char × Cursor) := do
  let digits := c.rest.take width
  let lead := digits.takeWhile fun d => (hexDigit? d).isSome
  if lead.length < width then
    throw (inDoubleQuotes start ("expected escape sequence of ".toList ++ Text.ofNat width
      ++ " hexadecimal numbers, but found ".toList ++ Text.quoted [c.peekAt lead.length]) c)
  return (← character (hexValue digits), c.advance width)

/-! ## Gaps -/

/-- The fault of something in quotes that began at `start`. -/
def inQuotes (start : Mark) (problem : Text) (c : Cursor) : Refusal :=
  .within "while scanning a quoted scalar" start problem c.mark

/-- The line breaks at the start of a line, with `fuel` bounding their number, and the cursor at what
    follows them and the blanks around them. -/
def quotedBreaks (start : Mark) : Nat → Text → Cursor → Except Refusal (Text × Cursor)
  | 0, breaks, c => .ok (breaks, c)
  | fuel + 1, breaks, c =>
    if c.atAnyMarker then .error (inQuotes start "found unexpected document separator" c)
    else
      let c := c.skip fun d => d = ' ' || d = '\t'
      if isBreak c.peek then quotedBreaks start fuel (breaks ++ breakText c.peek) c.step
      else .ok (breaks, c)

/-- The blanks and line breaks at the cursor: what they stand for, and the cursor behind them. -/
def quotedGap (start : Mark) (c : Cursor) : Except Refusal (Text × Cursor) := do
  let (blanks, c) := c.span fun d => d = ' ' || d = '\t'
  if c.peek = endMark then throw (inQuotes start "found unexpected end of stream" c)
  else if isBreak c.peek then
    let (breaks, next) ← quotedBreaks start c.rest.length [] c.step
    return (fold (breakText c.peek) breaks, next)
  else return (blanks, c)

/-! ## Quotations -/

/-- What a backslash and what follows it stand for, and the cursor behind; `c` is behind the
    backslash. -/
def escapeAt (start : Mark) (c : Cursor) : Except Refusal (Text × Cursor) := do
  match escaped? c.peek, escapeWidth? c.peek with
  | some d, _ => return ([d], c.step)
  | none, some width =>
    let (d, next) ← numberedEscape start width c.step
    return ([d], next)
  | none, none =>
    if isBreak c.peek then quotedBreaks start c.rest.length [] c.step
    else throw (inDoubleQuotes start ("found unknown escape character ".toList ++ c.shown) c)

/-- What is left of a quotation that began at `start`, and the cursor behind its end; `read` is its text
    so far, and `fuel` bounds its length. -/
def quotationFrom (double : Bool) (start : Mark) : Nat → Text → Cursor →
    Except Refusal (Text × Cursor)
  | 0, read, c => .ok (read, c)
  | fuel + 1, read, c => do
    let d := c.peek
    if d = ' ' || d = '\t' || endsLine d then
      let (gap, next) ← quotedGap start c
      quotationFrom double start fuel (read ++ gap) next
    else if double then
      if d = '"' then return (read, c.step)
      else if d = '\\' then
        let (text, next) ← escapeAt start c.step
        quotationFrom double start fuel (read ++ text) next
      else quotationFrom double start fuel (read ++ [d]) c.step
    else if d = '\'' then
      if c.peekAt 1 = '\'' then quotationFrom double start fuel (read ++ [d]) (c.advance 2)
      else return (read, c.step)
    else quotationFrom double start fuel (read ++ [d]) c.step

/-- The quotation that begins at a quote, and the cursor behind it. -/
def quotationAt (c : Cursor) : Except Refusal (Text × Cursor) :=
  quotationFrom (c.peek = '"') c.mark (c.rest.length + 1) [] c.step

example : (quotationAt ⟨"'it''s' x".toList, 0, 0, 0⟩).toOption.map (·.1) = some "it's".toList := by
  decide
example : (quotationAt ⟨"\"a\\\n  b\"".toList, 0, 0, 0⟩).toOption.map (·.1) = some "ab".toList := by
  decide

end SearchQuery.Yaml

/-
  Scalars of whole lines, behind a bar or a greater sign.

  1. **Header** — a sign says whether the line breaks at the end are kept or dropped, and a digit how far
     the lines are indented; a comment may follow.
  2. **Lines** — without a digit, the widest of the empty lines in front and the first other line say how
     far the lines are indented.  The scalar ends at the first line that is indented otherwise.
  3. **Folding** — behind a greater sign, a single line feed between two lines that do not begin with a
     blank counts as a blank.
-/
import SearchQuery.Yaml.Cursor

namespace SearchQuery.Yaml

/-! ## Header -/

/-- What becomes of the line breaks at the end of a scalar. -/
inductive Chomping where
  /-- all are dropped -/
  | strip
  /-- the first one is kept -/
  | clip
  /-- all are kept -/
  | keep
  deriving DecidableEq, Repr

/-- What stands behind the sign of a scalar. -/
structure BlockHeader where
  chomping : Chomping := .clip
  /-- how far the lines are indented, if the header says so -/
  indentation : Option Nat := none
  deriving DecidableEq, Repr

/-- The fault of something in a scalar that began at `start`. -/
def inBlockScalar (start : Mark) (problem : Text) (c : Cursor) : Refusal :=
  .within "while scanning a block scalar" start problem c.mark

/-- The sign for the line breaks at the end that may be at the cursor, and the cursor behind it. -/
def chompingAt (c : Cursor) : Option Chomping × Cursor :=
  if c.peek = '+' then (some .keep, c.step)
  else if c.peek = '-' then (some .strip, c.step)
  else (none, c)

/-- The digit for the indentation that may be at the cursor, and the cursor behind it. -/
def indentationAt (start : Mark) (c : Cursor) : Except Refusal (Option Nat × Cursor) :=
  if c.peek = '0' then
    .error (inBlockScalar start "expected indentation indicator in the range 1-9, but found 0" c)
  else if c.peek.isDigit then .ok (some (c.peek.toNat - '0'.toNat), c.step)
  else .ok (none, c)

/-- The header at the cursor, and the cursor at the lines behind it. -/
def blockHeader (start : Mark) (c : Cursor) : Except Refusal (BlockHeader × Cursor) := do
  let (before, c) := chompingAt c
  let (indentation, c) ← indentationAt start c
  let (behind, c) := if before.isNone && indentation.isSome then chompingAt c else (none, c)
  if !endsWord c.peek then
    throw (inBlockScalar start
      ("expected chomping or indentation indicators, but found ".toList ++ c.shown) c)
  let c := c.skipBlanks.skipComment
  if !endsLine c.peek then
    throw (inBlockScalar start ("expected a comment or a line break, but found ".toList ++ c.shown) c)
  return (⟨(before.or behind).getD .clip, indentation⟩, c.skipBreak)

/-! ## Lines -/

/-- The line breaks in front of the first line that is not empty, the cursor there, and the column of the
    widest run of blanks up to there; `fuel` bounds the way. -/
def leadingBreaks : Nat → Text → Nat → Cursor → Text × Nat × Cursor
  | 0, breaks, widest, c => (breaks, widest, c)
  | fuel + 1, breaks, widest, c =>
    let c' := c.skipBlanks
    let widest := if c'.index = c.index then widest else max widest c'.column
    if isBreak c'.peek then leadingBreaks fuel (breaks ++ breakText c'.peek) widest c'.step
    else (breaks, widest, c')

/-- The cursor behind blanks, up to a column, with `fuel` bounding their number. -/
def indentTo (column : Nat) : Nat → Cursor → Cursor
  | 0, c => c
  | fuel + 1, c => if c.column < column && c.peek = ' ' then indentTo column fuel c.step else c

/-- The line breaks in front of the next line that is not empty, and the cursor there or at its column;
    `fuel` bounds their number. -/
def blockBreaks (column : Nat) : Nat → Text → Cursor → Text × Cursor
  | 0, breaks, c => (breaks, c)
  | fuel + 1, breaks, c =>
    let c := indentTo column column c
    if isBreak c.peek then blockBreaks column fuel (breaks ++ breakText c.peek) c.step
    else (breaks, c)

/-- What stands for the line break between two lines, and for the empty lines behind it. -/
def lineJoin (folded : Bool) (lineStart : Char) (lineBreak breaks : Text) (next : Char) : Text :=
  let isBlank (c : Char) : Bool := c = ' ' || c = '\t'
  if folded && lineBreak = ['\n'] && !isBlank lineStart && !isBlank next then
    (if breaks.isEmpty then [' '] else breaks)
  else lineBreak ++ breaks

/-- A text of lines that was read: the text, the break behind the last line, the further breaks, and the
    cursor behind them. -/
structure BlockLines where
  text : Text
  lineBreak : Text
  breaks : Text
  next : Cursor

/-- The lines from the cursor on, which is in their column, with `fuel` bounding their number; `read` is
    the text in front of them. -/
def blockLines (folded : Bool) (column : Nat) : Nat → Text → Cursor → BlockLines
  | 0, read, c => ⟨read, [], [], c⟩
  | fuel + 1, read, c =>
    let (line, behind) := c.span fun d => !isBreak d
    let lineBreak := if isBreak behind.peek then breakText behind.peek else []
    let (breaks, next) := blockBreaks column (behind.rest.length + 1) [] behind.skipBreak
    let read := read ++ line
    if next.column = column && next.peek != endMark then
      let join := lineJoin folded c.peek lineBreak breaks next.peek
      blockLines folded column fuel (read ++ join) next
    else ⟨read, lineBreak, breaks, next⟩

/-! ## Scalars -/

/-- The text of lines with what is kept of the line breaks at their end. -/
def BlockLines.chomped (l : BlockLines) : Chomping → Text
  | .strip => l.text
  | .clip => l.text ++ l.lineBreak
  | .keep => l.text ++ l.lineBreak ++ l.breaks

/-- The scalar whose sign is at the cursor, where lines inside of the enclosing node begin at column
    `least` or behind it; and the cursor behind the scalar. -/
def blockScalarAt (least : Nat) (c : Cursor) : Except Refusal (Text × Cursor) := do
  let folded := c.peek = '>'
  let (header, c) ← blockHeader c.mark c.step
  let least := max least 1
  let (breaks, column, c) := match header.indentation with
    | none =>
      let (breaks, widest, next) := leadingBreaks (c.rest.length + 1) [] 0 c
      (breaks, max least widest, next)
    | some n =>
      let column := least + n - 1
      let (breaks, next) := blockBreaks column (c.rest.length + 1) [] c
      (breaks, column, next)
  let lines :=
    if c.column = column && c.peek != endMark then
      blockLines folded column (c.rest.length + 1) breaks c
    else ⟨[], [], breaks, c⟩
  return (lines.chomped header.chomping, lines.next)

example : (blockScalarAt 0 ⟨"|\n a\n\n  b\nc".toList, 0, 0, 0⟩).toOption.map (·.1)
    = some "a\n\n b\n".toList := by decide
example : (blockScalarAt 0 ⟨">-\n a\n b\n\n c\n".toList, 0, 0, 0⟩).toOption.map (·.1)
    = some "a b\nc".toList := by decide

end SearchQuery.Yaml

/-
  Plain scalars: text without quotes.

  A plain scalar is made of runs of characters with gaps in between.  A run ends at a blank, at a colon
  with a blank behind it, and, inside of brackets, at any character that separates or closes.  A gap is
  blanks, or line breaks with the blanks around them: one line feed counts as a blank, and of several the
  first does not count.  The scalar ends at a comment, at a line that is not indented far enough, and at
  a marker between documents.
-/
import SearchQuery.Yaml.Cursor

namespace SearchQuery.Yaml

/-! ## Runs -/

/-- Characters that stand for themselves inside of brackets. -/
def isBracketMark (c : Char) : Bool := [',', '[', ']', '\x7b', '\x7d'].contains c

/-- Characters that a plain scalar does not begin with. -/
def isIndicator (c : Char) : Bool :=
  ['-', '?', ':', ',', '[', ']', '\x7b', '\x7d', '#', '&', '*', '!', '|', '>', '\'', '"', '%', '@',
    '\x60'].contains c

/-- Whether a plain scalar begins here. -/
def startsPlain (inBrackets : Bool) (c : Cursor) : Bool :=
  let d := c.peek
  (!endsToken d && !isIndicator d)
    || (!endsToken (c.peekAt 1) && (d = '-' || (!inBrackets && (d = '?' || d = ':'))))

/-- Whether a run ends in front of a character, with more text behind it. -/
def endsRun (inBrackets : Bool) (c : Char) (t : Text) : Bool :=
  let next := t.headD endMark
  endsToken c || (c = ':' && (endsToken next || (inBrackets && isBracketMark next)))
    || (inBrackets && (c = '?' || isBracketMark c))

/-- The run at the start of a text. -/
def plainRun (inBrackets : Bool) : Text → Text
  | [] => []
  | c :: t => if endsRun inBrackets c t then [] else c :: plainRun inBrackets t

/-! ## Gaps -/

/-- What stands behind a run: what it counts as, whether a line ends in it, and the cursor behind it. -/
structure Gap where
  text : Text
  isBroken : Bool
  next : Cursor

/-- The line breaks behind the first one of a gap, with `fuel` bounding the way, or nothing if they lead
    to a marker between documents. -/
def gapBreaks : Nat → Text → Cursor → Option Text × Cursor
  | 0, breaks, c => (some breaks, c)
  | fuel + 1, breaks, c =>
    if c.atAnyMarker then (none, c)
    else
      let c := c.skipBlanks
      if isBreak c.peek then gapBreaks fuel (breaks ++ breakText c.peek) c.step
      else (some breaks, c)

/-- What line breaks count as: the first one, and those behind it. -/
def fold (first breaks : Text) : Text :=
  if first != ['\n'] then first ++ breaks else if breaks.isEmpty then [' '] else breaks

/-- The gap at the cursor.  One that leads to a marker between documents counts as nothing. -/
def gapAt (c : Cursor) : Gap :=
  let (blanks, c) := c.span (· == ' ')
  if isBreak c.peek then
    match gapBreaks c.rest.length [] c.step with
    | (none, next) => ⟨[], true, next⟩
    | (some breaks, next) => ⟨fold (breakText c.peek) breaks, true, next⟩
  else ⟨blanks, false, c⟩

/-! ## Scalars -/

/-- A scalar that was read: its text, whether the last line break belongs to it and not to a comment, and
    the cursor behind it. -/
structure PlainScalar where
  text : Text
  /-- where the last run ends -/
  stop : Mark
  /-- whether a line ends in the gap behind the last run -/
  isBroken : Bool
  next : Cursor

/-- The further runs of a scalar that was read up to a gap, with `fuel` bounding their number. -/
def plainFrom (inBrackets : Bool) (least : Nat) : Nat → PlainScalar → Text → PlainScalar
  | 0, s, _ => s
  | fuel + 1, s, gap =>
    let run := plainRun inBrackets s.next.rest
    if run.isEmpty || s.next.peek = '#' then s
    else
      let c := s.next.advance run.length
      let g := gapAt c
      let s : PlainScalar := ⟨s.text ++ gap ++ run, c.mark, g.isBroken, g.next⟩
      if g.text.isEmpty || (!inBrackets && g.next.column < least) then s
      else plainFrom inBrackets least fuel s g.text

/-- The plain scalar at the cursor, whose further lines begin at column `least` or behind it. -/
def plainAt (inBrackets : Bool) (least : Nat) (c : Cursor) : PlainScalar :=
  plainFrom inBrackets least (c.rest.length + 1) ⟨[], c.mark, false, c⟩ []

example : (plainAt false 1 ⟨"a b # note".toList, 0, 0, 0⟩).text = "a b".toList := by decide
example : (plainAt false 1 ⟨"a\n  b\n\n c: d".toList, 0, 0, 0⟩).text = "a b\nc".toList := by decide
example : (plainAt true 0 ⟨"a:b, c".toList, 0, 0, 0⟩).text = "a:b".toList := by decide

end SearchQuery.Yaml

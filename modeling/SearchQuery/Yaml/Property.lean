/-
  What may stand in front of a node, and in front of a document.

  1. **Names** — an anchor gives a name to a node, and an alias stands for the node with a name.
  2. **Tags** — a tag says what a node is.  It is given in full in angle brackets, or by a handle between
     exclamation marks and what follows it.  Bytes of characters may be written in hexadecimal behind
     percent signs.
  3. **Directives** — a line that begins with a percent sign says something of the document that follows:
     the version of YAML, or what a handle stands for.
-/
import SearchQuery.Text.Utf8
import SearchQuery.Yaml.Number
import SearchQuery.Yaml.Quotation
import SearchQuery.Yaml.Token

namespace SearchQuery.Yaml

/-- The fault of a character in a construct that began at `start`, where something else was expected. -/
def unexpected (context : Text) (start : Mark) (expected : Text) (c : Cursor) : Refusal :=
  .within context start ("expected ".toList ++ expected ++ ", but found ".toList ++ c.shown) c.mark

/-! ## Names -/

/-- The name behind the sign of an anchor or an alias, and the cursor behind it. -/
def nameAt (construct : Text) (c : Cursor) : Except Refusal (Text × Cursor) := do
  let (name, next) := c.step.span isNameChar
  let ends := endsToken next.peek || ['?', ':', ',', ']', '\x7d', '%', '@', '\x60'].contains next.peek
  if name.isEmpty || !ends then
    throw (unexpected ("while scanning an ".toList ++ construct) c.mark
      "alphabetic or numeric character" next)
  return (name, next)

/-! ## Tags -/

/-- Whether a character may stand in a tag. -/
def isTagChar (c : Char) : Bool :=
  isNameChar c || [';', '/', '?', ':', '@', '&', '=', '+', '$', ',', '.', '!', '~', '*', '\'', '(',
    ')', '[', ']'].contains c

/-- The bytes written in hexadecimal at the cursor, with `fuel` bounding their number, and the cursor
    behind them. -/
def percentBytes (construct : Text) (start : Mark) : Nat → Cursor → Except Refusal (List UInt8 × Cursor)
  | 0, c => .ok ([], c)
  | fuel + 1, c =>
    if c.peek != '%' then .ok ([], c)
    else do
      let c := c.step
      let digits := c.rest.take 2
      let lead := digits.takeWhile fun d => (hexDigit? d).isSome
      if lead.length < 2 then
        throw (.within ("while scanning a ".toList ++ construct) start
          ("expected URI escape sequence of 2 hexadecimal numbers, but found ".toList
            ++ Text.quoted [c.peekAt lead.length]) c.mark)
      let (bytes, next) ← percentBytes construct start fuel (c.advance 2)
      return (UInt8.ofNat (hexValue digits) :: bytes, next)

/-- The text of a tag from the cursor on, with `fuel` bounding its length, and the cursor behind it. -/
def tagTextFrom (construct : Text) (start : Mark) : Nat → Text → Cursor →
    Except Refusal (Text × Cursor)
  | 0, read, c => .ok (read, c)
  | fuel + 1, read, c => do
    if c.peek = '%' then
      let (bytes, next) ← percentBytes construct start c.rest.length c
      match Text.Utf8.decode bytes with
      | .ok t => tagTextFrom construct start fuel (read ++ t) next
      | .error f =>
        throw (.within ("while scanning a ".toList ++ construct) start f.message c.mark)
    else if isTagChar c.peek then tagTextFrom construct start fuel (read ++ [c.peek]) c.step
    else return (read, c)

/-- The text of a tag, which must not be empty, and the cursor behind it. -/
def tagText (construct : Text) (start : Mark) (c : Cursor) : Except Refusal (Text × Cursor) := do
  let (text, next) ← tagTextFrom construct start (c.rest.length + 1) [] c
  if text.isEmpty then throw (unexpected ("while parsing a ".toList ++ construct) start "URI" next)
  return (text, next)

/-- The handle of a tag, with its exclamation marks, and the cursor behind it. -/
def tagHandle (construct : Text) (start : Mark) (c : Cursor) : Except Refusal (Text × Cursor) := do
  let fault (c : Cursor) : Refusal :=
    unexpected ("while scanning a ".toList ++ construct) start "'!'" c
  if c.peek != '!' then throw (fault c)
  else if c.peekAt 1 = ' ' then return (['!'], c.step)
  else
    let (name, next) := c.step.span isNameChar
    if next.peek != '!' then throw (fault next)
    else return ('!' :: name ++ ['!'], next.step)

/-- The tag at the cursor, and the cursor behind it. -/
def tagAt (c : Cursor) : Except Refusal (TokenKind × Cursor) := do
  let start := c.mark
  let (tag, next) ←
    if c.peekAt 1 = '<' then do
      let (text, next) ← tagText "tag" start (c.advance 2)
      if next.peek != '>' then throw (unexpected "while parsing a tag" start "'>'" next)
      pure (TokenKind.tag none text, next.step)
    else if endsToken (c.peekAt 1) then pure (TokenKind.tag none ['!'], c.step)
    else do
      let word := (c.rest.drop 1).takeWhile fun d => !endsWord d
      let (handle, next) ← if word.contains '!' then tagHandle "tag" start c else pure (['!'], c.step)
      let (text, next) ← tagText "tag" start next
      pure (TokenKind.tag (some handle) text, next)
  if !endsWord next.peek then throw (unexpected "while scanning a tag" start "' '" next)
  return (tag, next)

/-! ## Directives -/

/-- The fault of a character in a directive that began at `start`. -/
def inDirective (start : Mark) (expected : Text) (c : Cursor) : Refusal :=
  unexpected "while scanning a directive" start expected c

/-- A part of a version, and the cursor behind it. -/
def versionPart (start : Mark) (c : Cursor) : Except Refusal (Nat × Cursor) := do
  let (digits, next) := c.span Char.isDigit
  if digits.isEmpty then throw (inDirective start "a digit" c)
  return ((← integer 10 digits).toNat, next)

/-- A version, and the cursor behind it. -/
def versionAt (start : Mark) (c : Cursor) : Except Refusal (Directive × Cursor) := do
  let (major, c) ← versionPart start c
  if c.peek != '.' then throw (inDirective start "a digit or '.'" c)
  let (minor, c) ← versionPart start c.step
  if !endsWord c.peek then throw (inDirective start "a digit or ' '" c)
  return (.version major minor, c)

/-- A handle and what it stands for, and the cursor behind them. -/
def handleAt (start : Mark) (c : Cursor) : Except Refusal (Directive × Cursor) := do
  let (name, c) ← tagHandle "directive" start c
  if c.peek != ' ' then throw (inDirective start "' '" c)
  let (stem, c) ← tagText "directive" start c.skipBlanks
  if !endsWord c.peek then throw (inDirective start "' '" c)
  return (.handle name stem, c)

/-- The directive at the cursor, and the cursor at the line behind it. -/
def directiveAt (c : Cursor) : Except Refusal (Directive × Cursor) := do
  let start := c.mark
  let (name, next) := c.step.span isNameChar
  if name.isEmpty || !endsWord next.peek then
    throw (inDirective start "alphabetic or numeric character" next)
  let (directive, next) ←
    if name = "YAML".toList then versionAt start next.skipBlanks
    else if name = "TAG".toList then handleAt start next.skipBlanks
    else pure (Directive.unknown, next.skip fun d => !isBreak d)
  let next := next.skipBlanks.skipComment
  if !endsLine next.peek then throw (inDirective start "a comment or a line break" next)
  return (directive, next.skipBreak)

example : (tagAt ⟨"!!str x".toList, 0, 0, 0⟩).toOption.map (·.1)
    = some (.tag (some "!!".toList) "str".toList) := by decide +kernel
example : (directiveAt ⟨"%TAG !e! tag:e,2000: # a\n".toList, 0, 0, 0⟩).toOption.map (·.1)
    = some (.handle "!e!".toList "tag:e,2000:".toList) := by decide +kernel

end SearchQuery.Yaml

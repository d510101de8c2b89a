/-
  From characters to tokens.

  A sequence or a mapping outside of brackets is told by its column: it begins with the first item or key
  that stands further to the right than the enclosing one, and ends with the first token further to the
  left.

  That a token begins a key is only known at the colon behind it, which has to stand on the same line and
  not too far away.  So every token that may begin a key is remembered, one at each depth of brackets, and
  tokens from the first such one on wait until it is decided.  Outside of brackets, a token in the column
  of the enclosing mapping has to be a key.

  1. **Reading on** — `next` reads one more token of the text, or refuses it.
  2. **Tokens** — `tokens` are those of a text whose place is certain, and the refusal that ends them, if
     there is one.
-/
import SearchQuery.Yaml.BlockScalar
import SearchQuery.Yaml.Property

namespace SearchQuery.Yaml

/-- Where a token that may begin a key stands. -/
structure PossibleKey where
  /-- the number of the token -/
  token : Nat
  /-- whether the token has to begin a key -/
  isRequired : Bool
  index : Nat
  mark : Mark
  deriving DecidableEq, Repr

/-- How far a text was read. -/
structure Layout where
  cursor : Cursor
  /-- how many brackets are open -/
  depth : Nat := 0
  /-- the columns of the sequences and mappings that are open, innermost first -/
  columns : List Nat := []
  /-- whether a key may begin here -/
  keyAllowed : Bool := true
  /-- the tokens that may begin keys, with the depth of each -/
  keys : List (Nat × PossibleKey) := []
  /-- how many tokens are certain -/
  released : Nat := 0
  /-- the tokens that are not certain -/
  waiting : List Token := []
  isDone : Bool := false

namespace Layout

/-- Whether a bracket is open. -/
def inBrackets (l : Layout) : Bool := l.depth != 0

/-- The first column that is inside of the innermost sequence or mapping. -/
def least (l : Layout) : Nat :=
  match l.columns with
  | [] => 0
  | c :: _ => c + 1

/-- A text of which a token was read that ends at a cursor. -/
def push (l : Layout) (kind : TokenKind) (next : Cursor) : Layout :=
  { l with waiting := l.waiting ++ [⟨kind, l.cursor.mark, next.mark⟩], cursor := next }

/-! ## Keys -/

/-- The fault of a key without a colon. -/
def noColon (l : Layout) (k : PossibleKey) : Refusal :=
  .within "while scanning a simple key" k.mark "could not find expected ':'" l.cursor.mark

/-- Forgets the keys that are on an earlier line or too far away. -/
def dropStale (l : Layout) : Except Refusal Layout := do
  let isStale (k : PossibleKey) : Bool :=
    k.mark.line != l.cursor.line || 1024 < l.cursor.index - k.index
  match l.keys.find? fun (_, k) => isStale k && k.isRequired with
  | some (_, k) => throw (l.noColon k)
  | none => return { l with keys := l.keys.filter fun (_, k) => !isStale k }

/-- Forgets the key at this depth. -/
def dropKey (l : Layout) : Except Refusal Layout :=
  match l.keys.lookup l.depth with
  | none => .ok l
  | some k =>
    if k.isRequired then .error (l.noColon k)
    else .ok { l with keys := l.keys.filter fun (depth, _) => depth != l.depth }

/-- Remembers that the next token may begin a key. -/
def offerKey (l : Layout) : Except Refusal Layout := do
  if !l.keyAllowed then return l
  let l ← l.dropKey
  let c := l.cursor
  let isRequired := !l.inBrackets && l.columns.head? = some c.column
  let key : PossibleKey := ⟨l.released + l.waiting.length, isRequired, c.index, c.mark⟩
  return { l with keys := (l.depth, key) :: l.keys }

/-! ## Blocks -/

/-- Closes the sequences and mappings that do not reach to a column; outside of all columns none does. -/
def closeBlocks (l : Layout) (column : Option Nat) : Layout :=
  if l.inBrackets then l
  else
    let isClosed (c : Nat) : Bool := match column with
      | none => true
      | some column => column < c
    let mark := l.cursor.mark
    let ends := (l.columns.takeWhile isClosed).map fun _ => (⟨.blockEnd, mark, mark⟩ : Token)
    { l with columns := l.columns.dropWhile isClosed, waiting := l.waiting ++ ends }

/-- Opens a sequence or mapping in a column further to the right than the innermost one, in front of the
    token with a number. -/
def openBlock (l : Layout) (kind : TokenKind) (mark : Mark) (token : Nat) : Layout :=
  if l.inBrackets || mark.column < l.least then l
  else
    { l with
      columns := mark.column :: l.columns
      waiting := l.waiting.insertIdx (token - l.released) ⟨kind, mark, mark⟩ }

/-- Opens a sequence or mapping in the column of the next token. -/
def openHere (l : Layout) (kind : TokenKind) : Layout :=
  l.openBlock kind l.cursor.mark (l.released + l.waiting.length)

/-! ## Signs -/

/-- The end of the text. -/
def endOfText (l : Layout) : Except Refusal Layout := do
  let l ← (l.closeBlocks none).dropKey
  return { l.push .streamEnd l.cursor with keyAllowed := false, keys := [], isDone := true }

/-- A directive. -/
def directive (l : Layout) : Except Refusal Layout := do
  let l ← (l.closeBlocks none).dropKey
  let (d, next) ← directiveAt l.cursor
  return { l.push (.directive d) next with keyAllowed := false }

/-- A marker between documents. -/
def marker (l : Layout) (kind : TokenKind) : Except Refusal Layout := do
  let l ← (l.closeBlocks none).dropKey
  return { l.push kind (l.cursor.advance 3) with keyAllowed := false }

/-- An opening bracket. -/
def openBracket (l : Layout) (kind : TokenKind) : Except Refusal Layout := do
  let l ← l.offerKey
  return { l.push kind l.cursor.step with keyAllowed := true, depth := l.depth + 1 }

/-- A closing bracket. -/
def closeBracket (l : Layout) (kind : TokenKind) : Except Refusal Layout := do
  let l ← l.dropKey
  return { l.push kind l.cursor.step with keyAllowed := false, depth := l.depth - 1 }

/-- A comma inside of brackets. -/
def separator (l : Layout) : Except Refusal Layout := do
  let l ← l.dropKey
  return { l.push .separator l.cursor.step with keyAllowed := true }

/-- The fault of a sign outside of brackets where no key may begin. -/
def notAllowed (l : Layout) (signs : Text) : Refusal :=
  .faultAt l.cursor.mark (signs ++ " are not allowed here".toList)

/-- The dash in front of an item. -/
def item (l : Layout) : Except Refusal Layout := do
  if !l.inBrackets && !l.keyAllowed then throw (l.notAllowed "sequence entries")
  let l ← (l.openHere .blockSequenceStart).dropKey
  return { l.push .item l.cursor.step with keyAllowed := true }

/-- The question mark in front of a key. -/
def key (l : Layout) : Except Refusal Layout := do
  if !l.inBrackets && !l.keyAllowed then throw (l.notAllowed "mapping keys")
  let l ← (l.openHere .blockMappingStart).dropKey
  return { l.push .key l.cursor.step with keyAllowed := !l.inBrackets }

/-- The colon in front of a value. -/
def value (l : Layout) : Except Refusal Layout := do
  match l.keys.lookup l.depth with
  | some k =>
    let sign : Token := ⟨.key, k.mark, k.mark⟩
    let l : Layout :=
      { l with
        keys := l.keys.filter fun (depth, _) => depth != l.depth
        waiting := l.waiting.insertIdx (k.token - l.released) sign }
    let l := l.openBlock .blockMappingStart k.mark k.token
    return { l.push .value l.cursor.step with keyAllowed := false }
  | none =>
    if !l.inBrackets && !l.keyAllowed then throw (l.notAllowed "mapping values")
    let l ← (l.openHere .blockMappingStart).dropKey
    return { l.push .value l.cursor.step with keyAllowed := !l.inBrackets }

/-! ## Nodes and their properties -/

/-- The name of an anchor or an alias. -/
def name (l : Layout) (construct : Text) (kind : Text → TokenKind) : Except Refusal Layout := do
  let l ← l.offerKey
  let (t, next) ← nameAt construct l.cursor
  return { l.push (kind t) next with keyAllowed := false }

/-- A tag. -/
def tag (l : Layout) : Except Refusal Layout := do
  let l ← l.offerKey
  let (kind, next) ← tagAt l.cursor
  return { l.push kind next with keyAllowed := false }

/-- A scalar of whole lines. -/
def blockScalar (l : Layout) : Except Refusal Layout := do
  let l ← l.dropKey
  let (t, next) ← blockScalarAt l.least l.cursor
  return { l.push (.scalar t false) next with keyAllowed := true }

/-- A scalar in quotes. -/
def quotation (l : Layout) : Except Refusal Layout := do
  let l ← l.offerKey
  let (t, next) ← quotationAt l.cursor
  return { l.push (.scalar t false) next with keyAllowed := false }

/-- A plain scalar. -/
def plain (l : Layout) : Except Refusal Layout := do
  let l ← l.offerKey
  let s := plainAt l.inBrackets l.least l.cursor
  let token : Token := ⟨.scalar s.text true, l.cursor.mark, s.stop⟩
  return { l with waiting := l.waiting ++ [token], cursor := s.next, keyAllowed := s.isBroken }

/-! ## Reading on -/

/-- Reads the token at the cursor. -/
def token (l : Layout) : Except Refusal Layout :=
  let c := l.cursor
  let d := c.peek
  let isLoose := endsToken (c.peekAt 1)
  if d = endMark then l.endOfText
  else if d = '%' && c.column = 0 then l.directive
  else if c.atMarker ['-', '-', '-'] then l.marker .documentStart
  else if c.atMarker ['.', '.', '.'] then l.marker .documentEnd
  else if d = '[' then l.openBracket .sequenceStart
  else if d = '\x7b' then l.openBracket .mappingStart
  else if d = ']' then l.closeBracket .sequenceEnd
  else if d = '\x7d' then l.closeBracket .mappingEnd
  else if d = ',' then l.separator
  else if d = '-' && isLoose then l.item
  else if d = '?' && (l.inBrackets || isLoose) then l.key
  else if d = ':' && (l.inBrackets || isLoose) then l.value
  else if d = '*' then l.name "alias" .alias
  else if d = '&' then l.name "anchor" .anchor
  else if d = '!' then l.tag
  else if (d = '|' || d = '>') && !l.inBrackets then l.blockScalar
  else if d = '\'' || d = '"' then l.quotation
  else if startsPlain l.inBrackets c then l.plain
  else
    .error (.within "while scanning for the next token" c.mark
      ("found character ".toList ++ c.shown ++ " that cannot start any token".toList) c.mark)

/-- Reads the next token. -/
def next (l : Layout) : Except Refusal Layout := do
  let (cursor, later) := l.cursor.toToken
  let keyAllowed := l.keyAllowed || (later && !l.inBrackets)
  let l ← { l with cursor, keyAllowed }.dropStale
  let l ← (l.closeBlocks (some l.cursor.column)).token
  if l.isDone then return l else l.dropStale

/-! ## Tokens -/

/-- The tokens that are certain, and what is left then. -/
def release (l : Layout) : List Token × Layout :=
  let certain := match (l.keys.map fun (_, k) => k.token).min? with
    | none => l.waiting.length
    | some first => first - l.released
  let (ready, waiting) := l.waiting.splitAt certain
  (ready, { l with waiting, released := l.released + ready.length })

/-- The further tokens of a text, with `fuel` bounding their number, and the refusal that ends them. -/
def tokens : Nat → Layout → List Token × Option Refusal
  | 0, _ => ([], none)
  | fuel + 1, l =>
    match l.next with
    | .error r => ([], some r)
    | .ok l =>
      let (ready, l) := l.release
      if l.isDone then (ready, none)
      else
        let (more, refusal) := tokens fuel l
        (ready ++ more, refusal)

end Layout

/-- The tokens of a text whose place is certain, and the refusal that ends them, if there is one. -/
def tokens (t : Text) : List Token × Option Refusal := Layout.tokens (t.length + 2) { cursor := ⟨t, 0, 0, 0⟩ }

example : (tokens "a: [b]\n").1.map Token.kind
    = [.blockMappingStart, .key, .scalar "a".toList true, .value, .sequenceStart,
       .scalar "b".toList true, .sequenceEnd, .blockEnd, .streamEnd] := by decide +kernel

end SearchQuery.Yaml

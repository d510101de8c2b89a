/-
  From tokens to nodes.

  1. **Nodes** — a node is an alias, or a scalar, a sequence or a mapping, with a name and a tag in front
     if it has them.  Where nothing stands in place of a node, it is an empty scalar.
  2. **Text** — a text holds at most one document, which may stand behind directives and a marker, and
     before another marker.

  The tokens are read one by one, so that of two faults the one is told that is met first.  A name that is
  used inside of the node that it names stands for an empty node of its kind.
-/
import SearchQuery.Yaml.Layout
import SearchQuery.Yaml.Node

namespace SearchQuery.Yaml

/-! ## Reading tokens -/

/-- What is left of the tokens of a text, and what was learned from those before. -/
structure Source where
  tokens : List Token
  /-- what ends the tokens, if they do not end with the text -/
  refusal : Option Refusal := none
  /-- what the handles of tags stand for -/
  handles : List (Text × Text) := []
  /-- the nodes that have names -/
  anchors : List (Text × Node) := []

/-- Reads something from tokens. -/
abbrev Reading := StateT Source (Except Refusal)

namespace Reading

/-- The refusal of tokens that end too early, which those of a text never do. -/
def exhausted : Refusal := .invalid []

/-- The next token. -/
def peek : Reading Token := do
  let s ← get
  match s.tokens with
  | t :: _ => return t
  | [] => throw (s.refusal.getD exhausted)

/-- Passes over the next token. -/
def advance : Reading Unit := modify fun s => { s with tokens := s.tokens.tail }

/-- Whether the next token is one of some kinds. -/
def isAt (kinds : List TokenKind) : Reading Bool := do return kinds.contains (← peek).kind

/-- Passes over the next token if it is of a kind, and says whether it was. -/
def advanceIf (kind : TokenKind) : Reading Bool := do
  if ← isAt [kind] then
    advance
    return true
  else return false

/-- The fault of the next token in a construct that began at `start`. -/
def misplaced {α : Type} (context : Text) (start : Mark) (expected : Text) : Reading α := do
  let t ← peek
  throw (.within context start (expected ++ Text.quoted t.kind.name) t.start)

/-! ## Properties -/

/-- What stands in front of a node. -/
structure Properties where
  anchor : Option Text := none
  /-- the name of the tag -/
  tag : Option Text := none
  /-- where they begin, if there are any -/
  start : Option Mark := none

/-- The name of a tag with its handle replaced; `start` is where the node begins, `mark` the tag. -/
def tagName (start mark : Mark) (handle : Option Text) (suffix : Text) : Reading Text := do
  match handle with
  | none => return suffix
  | some h =>
    match (← get).handles.lookup h with
    | some stem => return stem ++ suffix
    | none =>
      throw (.within "while parsing a node" start
        ("found undefined tag handle ".toList ++ Text.quoted h) mark)

/-- The anchor and the tag in front of a node, in either order. -/
def properties : Reading Properties := do
  let first ← peek
  match first.kind with
  | .anchor name =>
    advance
    let second ← peek
    match second.kind with
    | .tag handle suffix =>
      advance
      let tag ← tagName first.start second.start handle suffix
      return ⟨some name, some tag, some first.start⟩
    | _ => return ⟨some name, none, some first.start⟩
  | .tag handle suffix =>
    advance
    let second ← peek
    match second.kind with
    | .anchor name =>
      advance
      let tag ← tagName first.start first.start handle suffix
      return ⟨some name, some tag, some first.start⟩
    | _ =>
      let tag ← tagName first.start first.start handle suffix
      return ⟨none, some tag, some first.start⟩
  | _ => return {}

/-- The tag of a node: the one in front of it, unless there is none or a single exclamation mark. -/
def Properties.tagOr (p : Properties) (usual : Tag) : Tag :=
  match p.tag with
  | none | some ['!'] => usual
  | some name => .ofName name

/-- Gives a node the name in front of it. -/
def define (p : Properties) (n : Node) : Reading Unit :=
  match p.anchor with
  | none => return ()
  | some name => modify fun s => { s with anchors := (name, n) :: s.anchors }

/-- Refuses a name that another node has; `start` is where the node begins. -/
def checkAnchor (p : Properties) (start : Mark) : Reading Unit := do
  if let some name := p.anchor then
    if let some first := (← get).anchors.lookup name then
      throw (.within
        ("found duplicate anchor ".toList ++ Text.quoted name ++ "; first occurrence".toList)
        first.start "second occurrence" start)

/-! ## Nodes -/

/-- The absent node at a position. -/
def emptyNode (m : Mark) : Node := .scalar m .null []

/-- A node with the properties in front of it, whose parts are read by `parts`; `empty` is the node
    without them, and `fill` the node with them. -/
def collection {α : Type} (p : Properties) (empty : Node) (fill : α → Node) (parts : Reading α) :
    Reading Node := do
  checkAnchor p empty.start
  define p empty
  let n := fill (← parts)
  define p n
  return n

/-- A scalar with the properties in front of it. -/
def scalar (p : Properties) (start : Mark) (usual : Tag) (text : Text) : Reading Node := do
  checkAnchor p start
  let n : Node := .scalar start (p.tagOr usual) text
  define p n
  return n

/-- The tag of a scalar in quotes or of whole lines, or of a plain one.  Behind a single exclamation mark
    both are taken for plain ones. -/
def usualTag (p : Properties) (isPlain : Bool) (text : Text) : Tag :=
  if isPlain || p.tag.isSome then implicitTag text else .text

mutual

/-- A node.  Outside of brackets it may be a sequence or a mapping of its own column, and as a part of a
    mapping a sequence in the column of that. -/
def node : Nat → (isBlock inMapping : Bool) → Reading Node
  | 0, _, _ => throw exhausted
  | fuel + 1, isBlock, inMapping => do
    let t ← peek
    if let .alias name := t.kind then
      advance
      match (← get).anchors.lookup name with
      | some n => return n
      | none => throw (.faultAt t.start ("found undefined alias ".toList ++ Text.quoted name))
    let p ← properties
    let t ← peek
    let start := p.start.getD t.start
    let sequence (items : List Node) : Node := .sequence start (p.tagOr .sequence) items
    let mapping (entries : List (Node × Node)) : Node := .mapping start (p.tagOr .mapping) entries
    match t.kind with
    | .scalar text isPlain =>
      advance
      scalar p start (usualTag p isPlain text) text
    | .sequenceStart =>
      advance
      collection p (sequence []) sequence (sequenceItems fuel t.start [])
    | .mappingStart =>
      advance
      collection p (mapping []) mapping (mappingEntries fuel t.start [])
    | kind =>
      if inMapping && kind = .item then
        collection p (sequence []) sequence (columnItems fuel [])
      else if isBlock && kind = .blockSequenceStart then
        advance
        collection p (sequence []) sequence (blockItems fuel t.start [])
      else if isBlock && kind = .blockMappingStart then
        advance
        collection p (mapping []) mapping (blockEntries fuel t.start [])
      else if p.start.isSome then scalar p start (implicitTag []) []
      else
        let context : Text :=
          if isBlock then "while parsing a block node" else "while parsing a flow node"
        misplaced context start "expected the node content, but found "

/-- The part behind a sign that ended at `stop`, unless one of some tokens follows. -/
def part : Nat → (isBlock inMapping : Bool) → List TokenKind → Mark → Reading Node
  | 0, _, _, _, _ => throw exhausted
  | fuel + 1, isBlock, inMapping, ends, stop => do
    if ← isAt ends then return emptyNode stop else node fuel isBlock inMapping

/-- The value of an entry, unless the sign in front of it is missing. -/
def valuePart : Nat → (isBlock : Bool) → List TokenKind → Reading Node
  | 0, _, _ => throw exhausted
  | fuel + 1, isBlock, ends => do
    let t ← peek
    if ← advanceIf .value then part fuel isBlock isBlock ends t.stop else return emptyNode t.start

/-- The items of a sequence in a column of its own, which began at `start`, and its end; those that were
    read come last first. -/
def blockItems : Nat → Mark → List Node → Reading (List Node)
  | 0, _, _ => throw exhausted
  | fuel + 1, start, items => do
    let t ← peek
    if ← advanceIf .item then
      let n ← part fuel true false [.item, .blockEnd] t.stop
      blockItems fuel start (n :: items)
    else if ← advanceIf .blockEnd then return items.reverse
    else misplaced "while parsing a block collection" start "expected <block end>, but found "

/-- The items of a sequence in the column of the mapping around it; those that were read come last
    first. -/
def columnItems : Nat → List Node → Reading (List Node)
  | 0, _ => throw exhausted
  | fuel + 1, items => do
    let t ← peek
    if ← advanceIf .item then
      let n ← part fuel true false [.item, .key, .value, .blockEnd] t.stop
      columnItems fuel (n :: items)
    else return items.reverse

/-- The entries of a mapping in a column, which began at `start`, and its end; those that were read come
    last first. -/
def blockEntries : Nat → Mark → List (Node × Node) → Reading (List (Node × Node))
  | 0, _, _ => throw exhausted
  | fuel + 1, start, entries => do
    let t ← peek
    if ← advanceIf .key then
      let k ← part fuel true true [.key, .value, .blockEnd] t.stop
      let v ← valuePart fuel true [.key, .value, .blockEnd]
      blockEntries fuel start ((k, v) :: entries)
    else if ← advanceIf .blockEnd then return entries.reverse
    else misplaced "while parsing a block mapping" start "expected <block end>, but found "

/-- The items of a sequence in brackets, which began at `start`, and its end; those that were read come
    last first. -/
def sequenceItems : Nat → Mark → List Node → Reading (List Node)
  | 0, _, _ => throw exhausted
  | fuel + 1, start, items => do
    if ← advanceIf .sequenceEnd then return items.reverse
    if !items.isEmpty then
      if !(← advanceIf .separator) then
        misplaced "while parsing a flow sequence" start "expected ',' or ']', but got "
    let t ← peek
    if ← advanceIf .sequenceEnd then return items.reverse
    else if ← advanceIf .key then
      let k ← part fuel false false [.value, .separator, .sequenceEnd] t.stop
      let v ← valuePart fuel false [.separator, .sequenceEnd]
      sequenceItems fuel start (.mapping t.start .mapping [(k, v)] :: items)
    else
      let n ← node fuel false false
      sequenceItems fuel start (n :: items)

/-- The entries of a mapping in brackets, which began at `start`, and its end; those that were read come
    last first. -/
def mappingEntries : Nat → Mark → List (Node × Node) → Reading (List (Node × Node))
  | 0, _, _ => throw exhausted
  | fuel + 1, start, entries => do
    if ← advanceIf .mappingEnd then return entries.reverse
    if !entries.isEmpty then
      if !(← advanceIf .separator) then
        misplaced "while parsing a flow mapping" start "expected ',' or '\x7d', but got "
    let t ← peek
    if ← advanceIf .mappingEnd then return entries.reverse
    else if ← advanceIf .key then
      let k ← part fuel false false [.value, .separator, .mappingEnd] t.stop
      let v ← valuePart fuel false [.separator, .mappingEnd]
      mappingEntries fuel start ((k, v) :: entries)
    else
      let k ← node fuel false false
      mappingEntries fuel start ((k, emptyNode (← peek).start) :: entries)

end

/-! ## Documents -/

/-- What the handles of tags stand for if nothing else is said. -/
def usualHandles : List (Text × Text) := [(['!'], ['!']), (['!', '!'], Tag.stem)]

/-- The directives in front of a document, with `fuel` bounding their number; the handles that were read
    come last first. -/
def directives : Nat → (hasVersion : Bool) → List (Text × Text) → Reading Unit
  | 0, _, _ => throw exhausted
  | fuel + 1, hasVersion, handles => do
    let t ← peek
    match t.kind with
    | .directive (.version major _) =>
      advance
      if hasVersion then throw (.faultAt t.start "found duplicate YAML directive")
      if major != 1 then
        throw (.faultAt t.start "found incompatible YAML document (version 1.* is required)")
      directives fuel true handles
    | .directive (.handle name stem) =>
      advance
      if (handles.lookup name).isSome then
        throw (.faultAt t.start ("duplicate tag handle ".toList ++ Text.quoted name))
      directives fuel hasVersion ((name, stem) :: handles)
    | .directive .unknown =>
      advance
      directives fuel hasVersion handles
    | _ => modify fun s => { s with handles := handles ++ usualHandles }

/-- The directives and the marker in front of a document. -/
def documentStart : Reading Unit := do
  directives ((← get).tokens.length + 1) false []
  if !(← advanceIf .documentStart) then
    let t ← peek
    throw (.faultAt t.start
      ("expected '<document start>', but found ".toList ++ Text.quoted t.kind.name))

/-- Passes over markers for the end of a document, with `fuel` bounding their number. -/
def documentEnds : Nat → Reading Unit
  | 0 => return ()
  | fuel + 1 => do if ← advanceIf .documentEnd then documentEnds fuel

/-- Refuses another document behind the first one, which began at `first`. -/
def endOfText (first : Mark) : Reading Unit := do
  documentEnds (← get).tokens.length
  let t ← peek
  if t.kind != .streamEnd then
    documentStart
    throw (.within "expected a single document in the stream" first "but found another document" t.start)

/-- Whether the next token is in front of a document, and not in it. -/
def isOutside : Reading Bool := do
  match (← peek).kind with
  | .directive _ | .documentStart | .streamEnd => return true
  | _ => return false

/-- The node of a text, if it holds a document; `fuel` bounds the number of its nodes. -/
def text (fuel : Nat) : Reading (Option Node) := do
  if ← isAt [.streamEnd] then return none
  let root ←
    if ← isOutside then do
      documentStart
      let t ← peek
      if (← isOutside) || t.kind = .documentEnd then pure (emptyNode t.start) else node fuel true false
    else do
      modify fun s => { s with handles := usualHandles }
      node fuel true false
  endOfText root.start
  return some root

end Reading

/-- The node of a text whose lines end in line feeds, if it holds a document. -/
def node? (t : Text) : Except Refusal (Option Node) := do
  let (tokens, refusal) := tokens t
  let (n, _) ← (Reading.text (4 * tokens.length + 8)).run { tokens, refusal }
  return n

end SearchQuery.Yaml

/-
  From nodes to documents.

  1. **Merging** — the mappings behind the key `<<` come in front of the other entries of a mapping, of
     several the last one first, so that the entries of the mapping itself, and then those of earlier ones,
     win.
  2. **Order of faults** — the parts of a node are looked at in turn, those that have parts of their own
     later: level by level, from the first to the last of each level.  The first fault in this order is
     told.
  3. **Document** — when there is no fault, the document is built from the parts.
-/
import SearchQuery.Config.Document
import SearchQuery.Yaml.Meaning

namespace SearchQuery.Yaml

namespace Node

/-! ## Merging -/

/-- The fault of a node that is no mapping where one is merged into a mapping that begins at `start`. -/
def notMergeable (start : Mark) (wanted : Text) (n : Node) : Refusal :=
  .within "while constructing a mapping" start
    ("expected a ".toList ++ wanted ++ " for merging, but found ".toList ++ n.kind) n.start

/-- The entries of a mapping that begins at `start`, with those of the mappings that are merged into it;
    `fuel` bounds how deep these lie. -/
def merged : Nat → Mark → List (Node × Node) → Except Refusal (List (Node × Node))
  | 0, _, entries => .ok entries
  | fuel + 1, start, entries => do
    let fromOthers ← entries.mapM fun (k, v) =>
      if k.tag != .merge then pure []
      else match v with
        | .mapping m _ es => merged fuel m es
        | .sequence _ _ items => do
          let parts ← items.mapM fun
            | .mapping m _ es => merged fuel m es
            | n => throw (notMergeable start "mapping" n)
          pure parts.reverse.flatten
        | n => throw (notMergeable start "mapping or list of mappings" n)
    let own := (entries.filter fun (k, _) => k.tag != .merge).map fun (k, v) =>
      (if k.tag = .value then k.withTag .text else k, v)
    return fromOthers.flatten ++ own

/-! ## Parts -/

/-- The entries of a node in place of a mapping. -/
def entries (fuel : Nat) : Node → Except Refusal (List (Node × Node))
  | .mapping m _ es => merged fuel m es
  | n => .error (wrongKind "mapping" n)

/-- The items of a node in place of a sequence. -/
def items : Node → Except Refusal (List Node)
  | .sequence _ _ ns => .ok ns
  | n => .error (wrongKind "sequence" n)

/-- The single entry of an item of a sequence of pairs that begins at `start`. -/
def pair (context : Text) (start : Mark) : Node → Except Refusal (Node × Node)
  | .mapping _ _ [entry] => .ok entry
  | .mapping m _ es =>
    .error (.within context start ("expected a single mapping item, but found ".toList
      ++ Text.ofNat es.length ++ " items".toList) m)
  | n =>
    .error (.within context start
      ("expected a mapping of length 1, but found ".toList ++ n.kind) n.start)

/-- The items of a node in place of a sequence of pairs. -/
def pairItems (context : Text) (n : Node) : Except Refusal (List Node) :=
  match n with
  | .sequence _ _ ns => .ok ns
  | n => .error (.within context n.start ("expected a sequence, but found ".toList ++ n.kind) n.start)

/-- What faults of pairs are told to be in. -/
def pairContext (tag : Tag) : Text :=
  if tag = .pairs then "while constructing pairs" else "while constructing an ordered map"

/-- A key of a mapping that begins at `start`. -/
def key (start : Mark) (k : Node) : Except Refusal Scalar := do
  match ← k.scalar? with
  | some s => return s
  | none => throw (.within "while constructing a mapping" start "found unhashable key" k.start)

/-! ## Order of faults -/

/-- A node as a list, unless it stands for a scalar. -/
def withParts (n : Node) : Except Refusal (List Node) := do
  return if (← n.scalar?).isSome then [] else [n]

/-- The parts of a node that have parts of their own, if the others are no faults. -/
def innerParts (fuel : Nat) (n : Node) : Except Refusal (List Node) := do
  match n.tag with
  | .sequence => return (← (← n.items).mapM withParts).flatten
  | .orderedMapping | .pairs =>
    let context := pairContext n.tag
    return (← (← n.pairItems context).mapM fun item => do
      let (k, v) ← item.pair context n.start
      return (← k.withParts) ++ (← v.withParts)).flatten
  | _ =>
    return (← (← n.entries fuel).mapM fun (k, v) => do
      let _ ← k.key n.start
      v.withParts).flatten

/-- Looks for faults in the parts of some nodes, level by level; `fuel` bounds the number of levels. -/
def checkLevels : Nat → List Node → Except Refusal Unit
  | 0, _ | _, [] => .ok ()
  | fuel + 1, level => do checkLevels fuel (← level.mapM (innerParts (fuel + 1))).flatten

/-! ## Documents -/

/-- The document that a node stands for, with `fuel` bounding the number of its levels. -/
def documentWithin : Nat → Node → Except Refusal Document
  | 0, _ => .ok .null
  | fuel + 1, n => do
    match ← n.scalar? with
    | some s => return .scalar s
    | none =>
      match n.tag with
      | .sequence => return .sequence (← (← n.items).mapM (documentWithin fuel))
      | .orderedMapping | .pairs =>
        let context := pairContext n.tag
        return .sequence (← (← n.pairItems context).mapM fun item => do
          let (k, v) ← item.pair context n.start
          return .sequence [← documentWithin fuel k, ← documentWithin fuel v])
      | .set =>
        let members ← (← n.entries (fuel + 1)).mapM fun (k, _) => k.key n.start
        return .set ((Entries.ofPairs (members.map fun k => (k, ()))).map Prod.fst)
      | _ =>
        return .mapping (Entries.ofPairs (← (← n.entries (fuel + 1)).mapM fun (k, v) => do
          return (← k.key n.start, ← documentWithin fuel v)))

/-- The document that a node stands for; `fuel` bounds the number of its levels. -/
def document (fuel : Nat) (n : Node) : Except Refusal Document := do
  checkLevels fuel (← n.withParts)
  documentWithin (fuel + 1) n

end Node
end SearchQuery.Yaml
